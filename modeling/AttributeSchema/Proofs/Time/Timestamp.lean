import AttributeSchema.Proofs.Text.Blank
import AttributeSchema.Proofs.Text.Decimal
import AttributeSchema.Proofs.Text.Slices
import AttributeSchema.Proofs.Time.Calendar
import AttributeSchema.Time.Timestamp
/-!
# Timestamps survive their text

The text of a timestamp whose year has four digits is read back as that timestamp, also with a leap second
that ends a minute.
-/

namespace AttributeSchema.Timestamp

open Text Decimal Calendar

def year (t : Timestamp) : Int := yearOf (t.seconds / 86400)

/-! ## Parts of the text -/

theorem digits_append {ds : List Char} (h : AreDigits ds) (rest : List Char) :
    digits ds.length (ds ++ rest) = .ok (ds, rest) := by
  induction ds with
  | nil => rfl
  | cons c ds ih =>
      have hc : c.isDigit = true := h c List.mem_cons_self
      have hds := ih fun d hd => h d (List.mem_cons_of_mem _ hd)
      rw [List.length_cons, List.cons_append, digits, if_pos hc, hds]
      rfl

theorem number_padded {width n : Nat} (hwidth : 0 < width) (hn : n < 10 ^ width)
    (rest : List Char) : number width (padded width n ++ rest) = .ok (n, rest) := by
  have hread := digits_append (areDigits_padded width n) rest
  rw [length_padded hwidth hn] at hread
  rw [number, hread]
  simp [Except.map]

theorem oneOf_cons {c : Char} {allowed : List Char} (h : c ∈ allowed) (rest : List Char) :
    oneOf allowed (c :: rest) = .ok ((), rest) := by
  rw [oneOf, if_pos h]

/-! ## Dates -/

theorem yearText_of_four {y : Int} (hlow : 0 ≤ y) (hhigh : y ≤ 9999) :
    yearText y = padded 4 y.toNat := by
  rw [yearText, if_pos ⟨hlow, hhigh⟩]

theorem date_dateText {d : Date} (hvalid : d.isValid = true) (hlow : 0 ≤ d.year)
    (hhigh : d.year ≤ 9999) (rest : List Char) : date (dateText d ++ rest) = .ok (d, rest) := by
  obtain ⟨hmonth, hday⟩ := Date.lt_of_isValid hvalid
  have hyear : (d.year.toNat : Int) = d.year := Int.toNat_of_nonneg hlow
  have htext : dateText d ++ rest =
      padded 4 d.year.toNat ++ '-' :: (padded 2 d.month ++ '-' :: (padded 2 d.day ++ rest)) := by
    simp [dateText, yearText_of_four hlow hhigh]
  rw [htext, date, number_padded (by decide) (by omega)]
  simp only [bind, Except.bind]
  rw [oneOf_cons (by simp)]
  simp only []
  rw [number_padded (by decide) (by omega)]
  simp only []
  rw [oneOf_cons (by simp)]
  simp only []
  rw [number_padded (by decide) (by omega)]
  simp only [hyear, hvalid, if_true]

/-! ## Times -/

def EndsTime (rest : List Char) : Prop := ∃ c more, rest = c :: more ∧ c.isDigit = false ∧ c ≠ '.'

theorem fraction_append {ds rest : List Char} (hds : AreDigits ds) (hne : ds ≠ [])
    (hlength : ds.length ≤ 9) (hrest : EndsTime rest) :
    fraction (ds ++ rest) = .ok (value ds * 10 ^ (9 - ds.length), rest) := by
  obtain ⟨c, more, rfl, hc, -⟩ := hrest
  have hspan : span (ds ++ c :: more) = (ds, c :: more) := span_append hds (by simp [hc])
  unfold fraction
  split
  · rename_i h
    exact absurd h (by simp)
  · simp [hspan, hne, List.take_of_length_le hlength]

/-- A fraction is missing, or its digits count the nanoseconds. -/
theorem fractionText_cases {nanos : Nat} (hnanos : nanos < 1_000_000_000) :
    (nanos = 0 ∧ fractionText nanos = []) ∨
      ∃ ds, fractionText nanos = '.' :: ds ∧ AreDigits ds ∧ ds ≠ [] ∧ ds.length ≤ 9 ∧
        value ds * 10 ^ (9 - ds.length) = nanos := by
  have hpadded (width n : Nat) (hwidth : 0 < width) (hle : width ≤ 9) (hn : n < 10 ^ width)
      (hvalue : n * 10 ^ (9 - width) = nanos) (htext : fractionText nanos = '.' :: padded width n) :
      ∃ ds, fractionText nanos = '.' :: ds ∧ AreDigits ds ∧ ds ≠ [] ∧ ds.length ≤ 9 ∧
        value ds * 10 ^ (9 - ds.length) = nanos := by
    have hlength : (padded width n).length = width := length_padded hwidth hn
    refine ⟨padded width n, htext, areDigits_padded width n, ?_, by omega, ?_⟩
    · exact List.ne_nil_of_length_pos (by omega)
    · rw [value_padded, hlength, hvalue]
  by_cases hzero : nanos = 0
  · exact .inl ⟨hzero, by rw [fractionText, if_pos hzero]⟩
  right
  by_cases hmilli : nanos % 1_000_000 = 0
  · exact hpadded 3 (nanos / 1_000_000) (by decide) (by decide) (by omega)
      (by omega) (by rw [fractionText, if_neg hzero, if_pos hmilli])
  by_cases hmicro : nanos % 1000 = 0
  · exact hpadded 6 (nanos / 1000) (by decide) (by decide) (by omega) (by omega)
      (by rw [fractionText, if_neg hzero, if_neg hmilli, if_pos hmicro])
  · exact hpadded 9 nanos (by decide) (by decide) (by omega) (by omega)
      (by rw [fractionText, if_neg hzero, if_neg hmilli, if_neg hmicro])

/-- A time of day whose second may be the sixtieth. -/
theorem time_append {hour minute second nanos : Nat} (hhour : hour < 24) (hminute : minute < 60)
    (hsecond : second ≤ 60) (hnanos : nanos < 1_000_000_000) {rest : List Char}
    (hrest : EndsTime rest) :
    time (padded 2 hour ++ ':' :: (padded 2 minute ++ ':' :: (padded 2 second ++
        (fractionText nanos ++ rest)))) =
      .ok (if second = 60 then ((hour * 3600 + minute * 60 + 59, nanos + 1_000_000_000), rest)
        else ((hour * 3600 + minute * 60 + second, nanos), rest)) := by
  have hlast : (second < 60) ∨ second = 60 := by omega
  rw [time, number_padded (by decide) (by omega)]
  simp only [bind, Except.bind]
  rw [oneOf_cons (by simp)]
  simp only []
  rw [number_padded (by decide) (by omega)]
  simp only []
  rw [oneOf_cons (by simp)]
  simp only []
  rw [number_padded (by decide) (by omega)]
  simp only []
  rcases fractionText_cases hnanos with ⟨rfl, htext⟩ | ⟨ds, htext, hds, hne, hlength, hvalue⟩
  · obtain ⟨c, more, rfl, -, hc⟩ := hrest
    rw [htext, List.nil_append]
    rcases hlast with hlast | rfl
    · simp [hc, hhour, hminute, hlast, Nat.ne_of_lt hlast]
    · simp [hc, hhour, hminute]
  · rw [htext, List.cons_append]
    simp only [fraction_append hds hne hlength hrest, hvalue]
    rcases hlast with hlast | rfl
    · simp [hhour, hminute, hlast, Nat.ne_of_lt hlast]
    · simp [hhour, hminute]

theorem time_timeText {second nanos : Nat} (hsecond : second < 86400) (hnanos : nanos < 2_000_000_000)
    (hends : nanos < 1_000_000_000 ∨ second % 60 = 59)
    {rest : List Char} (hrest : EndsTime rest) :
    time (timeText second nanos ++ rest) = .ok ((second, nanos), rest) := by
  have hparts : second = second / 3600 * 3600 + second / 60 % 60 * 60 + second % 60 := by omega
  have hfraction : nanos % 1_000_000_000 < 1_000_000_000 := Nat.mod_lt _ (by decide)
  by_cases hleap : 1_000_000_000 ≤ nanos
  · have hlast : second % 60 = 59 := by omega
    have htext : timeText second nanos ++ rest =
        padded 2 (second / 3600) ++ ':' :: (padded 2 (second / 60 % 60) ++ ':' :: (padded 2 60 ++
          (fractionText (nanos % 1_000_000_000) ++ rest))) := by
      simp [timeText, hleap, hlast]
    rw [htext, time_append (by omega) (by omega) (by decide) hfraction hrest, if_pos rfl]
    congr 3 <;> omega
  · have htext : timeText second nanos ++ rest =
        padded 2 (second / 3600) ++ ':' :: (padded 2 (second / 60 % 60) ++
          ':' :: (padded 2 (second % 60) ++ (fractionText (nanos % 1_000_000_000) ++ rest))) := by
      simp [timeText, hleap]
    rw [htext, time_append (by omega) (by omega) (by omega) hfraction hrest, if_neg (by omega)]
    congr 3 <;> omega

/-! ## The whole text -/

theorem isAsciiVisible_of_mem_fractionText {nanos : Nat} {c : Char} (hc : c ∈ fractionText nanos) :
    IsAsciiVisible c := by
  have hpoint : IsAsciiVisible '.' := by unfold IsAsciiVisible; decide
  have hpadded {width n : Nat} (hc : c ∈ '.' :: padded width n) : IsAsciiVisible c := by
    rcases List.mem_cons.1 hc with rfl | hc
    · exact hpoint
    · exact isAsciiVisible_of_isDigit (areDigits_padded _ _ c hc)
  unfold fractionText at hc
  split at hc
  · exact absurd hc List.not_mem_nil
  · split at hc
    · exact hpadded hc
    · split at hc
      · exact hpadded hc
      · exact hpadded hc

theorem isAsciiVisible_of_mem_yearText {year : Int} {c : Char} (hc : c ∈ yearText year) :
    IsAsciiVisible c := by
  have hdigits {n : Nat} (hc : c ∈ padded 4 n) : IsAsciiVisible c :=
    isAsciiVisible_of_isDigit (areDigits_padded _ _ c hc)
  rw [yearText] at hc
  split at hc
  · exact hdigits hc
  · rcases List.mem_cons.1 hc with rfl | hc
    · split <;> exact ⟨by decide, by decide⟩
    · exact hdigits hc

theorem isAsciiVisible_of_mem_text {t : Timestamp} {c : Char} (hc : c ∈ t.text) :
    IsAsciiVisible c := by
  have hdigits {width n : Nat} (hc : c ∈ padded width n) : IsAsciiVisible c :=
    isAsciiVisible_of_isDigit (areDigits_padded _ _ c hc)
  have hmark (hc : c ∈ ['-', ':', 'T', 'Z']) : IsAsciiVisible c := by
    simp only [List.mem_cons, List.not_mem_nil, or_false] at hc
    rcases hc with rfl | rfl | rfl | rfl <;> exact ⟨by decide, by decide⟩
  rw [text, dateText, timeText] at hc
  simp only [List.mem_append, List.mem_cons, List.not_mem_nil, or_false] at hc
  simp only [List.mem_cons, List.not_mem_nil, or_false] at hmark
  have hyear := @isAsciiVisible_of_mem_yearText (Date.ofDay (t.seconds / 86400)).year c
  have hfraction := @isAsciiVisible_of_mem_fractionText (t.nanoseconds % 1_000_000_000) c
  grind

theorem four_le_length_yearText (year : Int) : 4 ≤ (yearText year).length := by
  rw [yearText]
  split
  · exact le_length_padded 4 _
  · rw [List.length_cons]
    exact Nat.le_succ_of_le (le_length_padded 4 _)

theorem le_byteCount_text (t : Timestamp) : 19 ≤ Utf8.byteCount t.text := by
  have hyear := four_le_length_yearText (Date.ofDay (t.seconds / 86400)).year
  have htwo (n : Nat) : 2 ≤ (padded 2 n).length := le_length_padded 2 n
  have hmonth := htwo (Date.ofDay (t.seconds / 86400)).month
  have hday := htwo (Date.ofDay (t.seconds / 86400)).day
  have hhour := htwo ((t.seconds % 86400).toNat / 3600)
  have hminute := htwo ((t.seconds % 86400).toNat / 60 % 60)
  have hsecond := htwo ((t.seconds % 86400).toNat % 60 +
    if 1_000_000_000 ≤ t.nanoseconds then 1 else 0)
  have hlength : 19 ≤ t.text.length := by
    simp only [text, dateText, timeText, List.length_append, List.length_cons, List.length_nil]
    omega
  exact Nat.le_trans hlength (Utf8.length_le_byteCount t.text)

theorem parse_text {t : Timestamp} (hlow : 0 ≤ t.year) (hhigh : t.year ≤ 9999) (hends : t.EndsMinute) :
    parse t.text = .ok t := by
  obtain ⟨hyear, hvalid, hday⟩ := ofDay_spec (t.seconds / 86400)
  have hlength : ¬ Utf8.byteCount t.text < 19 := Nat.not_lt.2 (le_byteCount_text t)
  have hsecond : t.nanoseconds < 1_000_000_000 ∨ (t.seconds % 86400).toNat % 60 = 59 := by
    unfold EndsMinute at hends
    omega
  have hread : time (timeText (t.seconds % 86400).toNat t.nanoseconds ++ ['Z']) =
      .ok (((t.seconds % 86400).toNat, t.nanoseconds), ['Z']) :=
    time_timeText (by omega) t.isFraction hsecond ⟨'Z', [], rfl, by decide, by decide⟩
  have hunix : ofUnix? t.seconds t.nanoseconds = some t := by
    rw [ofUnix?, dif_pos ⟨t.notBefore, t.notAfter, t.isFraction⟩]
    exact if_pos hends
  have hseconds : t.seconds / 86400 * 86400 + ((t.seconds % 86400).toNat : Int) - 0 = t.seconds := by
    omega
  rw [parse, if_neg hlength, text, List.append_assoc, List.cons_append,
    date_dateText hvalid (by rw [hyear]; exact hlow) (by rw [hyear]; exact hhigh)]
  simp only [bind, Except.bind]
  rw [oneOf_cons (by simp)]
  simp only []
  rw [hread]
  simp only [offset, hday, hseconds, hunix]
  rfl

theorem ofText_ofList_text (t : Timestamp) : ofText (String.ofList t.text) = parse t.text := by
  rw [ofText, String.toList_ofList, trim_of_isAsciiVisible fun c hc => isAsciiVisible_of_mem_text hc]

end AttributeSchema.Timestamp
