import AttributeSchema.Proofs.Time.Timestamp
/-!
# Which timestamps survive their text

A clock of a local time counts a leap second at the end of its own minutes, which are not always minutes of
universal time. The text of a timestamp leads back to it exactly if the year has four digits and a leap
second ends a minute of universal time: reading takes no sign, and only the sixtieth second of a minute for
a leap second.
-/

namespace AttributeSchema.Timestamp

open Text Calendar

/-! ## Leap seconds inside a minute -/

/-- The timestamp that the text spells: a leap second inside a minute has the text of the next second. -/
def spelled (t : Timestamp) : Timestamp :=
  if h : t.EndsMinute then t
  else
    { seconds := t.seconds + 1
      nanoseconds := t.nanoseconds - 1_000_000_000
      notBefore := Int.le_trans t.notBefore (Int.le_add_one (Int.le_refl _))
      notAfter := by
        have hlast := t.notAfter
        unfold EndsMinute at h
        unfold lastSecond at hlast ⊢
        omega
      isFraction := Nat.lt_of_le_of_lt (Nat.sub_le _ _) t.isFraction }

theorem endsMinute_spelled (t : Timestamp) : t.spelled.EndsMinute := by
  rw [spelled]
  split
  · assumption
  · have hfraction := t.isFraction
    left
    change t.nanoseconds - 1_000_000_000 < 1_000_000_000
    omega

theorem spelled_eq_iff {t : Timestamp} : t.spelled = t ↔ t.EndsMinute := by
  constructor
  · intro h
    rw [← h]
    exact endsMinute_spelled t
  · exact fun h => dif_pos h

/-- A leap second inside a minute is written like the second after it. -/
theorem timeText_succ {second nanos : Nat} (hinside : second % 60 ≠ 59)
    (hleap : 1_000_000_000 ≤ nanos) (hnanos : nanos < 2_000_000_000) :
    timeText second nanos = timeText (second + 1) (nanos - 1_000_000_000) := by
  have hhour : (second + 1) / 3600 = second / 3600 := by omega
  have hminute : (second + 1) / 60 % 60 = second / 60 % 60 := by omega
  have hsecond : (second + 1) % 60 = second % 60 + 1 := by omega
  have hrest : (nanos - 1_000_000_000) % 1_000_000_000 = nanos % 1_000_000_000 := by omega
  have hcarried : ¬ 1_000_000_000 ≤ nanos - 1_000_000_000 := by omega
  simp only [timeText, if_pos hleap, if_neg hcarried, hhour, hminute, hsecond, hrest, Nat.add_zero]

theorem text_spelled (t : Timestamp) : t.spelled.text = t.text := by
  by_cases h : t.EndsMinute
  · rw [spelled_eq_iff.2 h]
  · have hfraction := t.isFraction
    obtain ⟨hleap, hinside⟩ := not_or.1 h
    have hday : (t.seconds + 1) / 86400 = t.seconds / 86400 := by omega
    have hsecond : ((t.seconds + 1) % 86400).toNat = (t.seconds % 86400).toNat + 1 := by omega
    have htime : timeText (t.seconds % 86400).toNat t.nanoseconds =
        timeText ((t.seconds % 86400).toNat + 1) (t.nanoseconds - 1_000_000_000) :=
      timeText_succ (by omega) (by omega) hfraction
    rw [spelled, dif_neg h, text, text, hday, hsecond, htime]

theorem year_spelled (t : Timestamp) : t.spelled.year = t.year := by
  rw [spelled]
  split
  · rfl
  · rename_i h
    obtain ⟨-, hinside⟩ := not_or.1 h
    have hday : (t.seconds + 1) / 86400 = t.seconds / 86400 := by omega
    rw [year, year, hday]

/-! ## Years beyond four digits -/

theorem yearText_eq_cons {year : Int} (h : ¬ (0 ≤ year ∧ year ≤ 9999)) :
    ∃ sign rest, yearText year = sign :: rest ∧ sign.isDigit = false := by
  rw [yearText, if_neg h]
  refine ⟨_, _, rfl, ?_⟩
  split <;> rfl

theorem parse_text_of_year {t : Timestamp} (h : ¬ (0 ≤ t.year ∧ t.year ≤ 9999)) :
    parse t.text = .error .invalid := by
  have hyear : (Date.ofDay (t.seconds / 86400)).year = t.year := (ofDay_spec _).1
  obtain ⟨sign, rest, htext, hsign⟩ := yearText_eq_cons (hyear.symm ▸ h)
  have hlength : ¬ Utf8.byteCount t.text < 19 := Nat.not_lt.2 (le_byteCount_text t)
  rw [parse, if_neg hlength, text, dateText, htext]
  simp [date, number, digits, hsign, Except.map, bind, Except.bind]

/-! ## Reading -/

theorem ofText_text_eq (t : Timestamp) :
    ofText (String.ofList t.text) =
      if 0 ≤ t.year ∧ t.year ≤ 9999 then .ok t.spelled else .error .invalid := by
  rw [ofText_ofList_text]
  split
  · rename_i hyear
    rw [← year_spelled] at hyear
    rw [← text_spelled]
    exact parse_text hyear.1 hyear.2 (endsMinute_spelled t)
  · rename_i hyear
    exact parse_text_of_year hyear

/-- A timestamp is read back from its text exactly if its year has four digits and a leap second ends a
minute. The text of another year is not read at all. -/
theorem survives_text_iff (t : Timestamp) :
    (ofText (String.ofList t.text) = .ok t ↔
      (0 ≤ t.year ∧ t.year ≤ 9999) ∧ (t.nanoseconds < 1_000_000_000 ∨ t.seconds % 60 = 59)) ∧
    (ofText (String.ofList t.text) = .error .invalid ↔ ¬ (0 ≤ t.year ∧ t.year ≤ 9999)) := by
  rw [ofText_text_eq, ← EndsMinute, ← spelled_eq_iff]
  by_cases hyear : 0 ≤ t.year ∧ t.year ≤ 9999
  · rw [if_pos hyear]
    simp [hyear]
  · rw [if_neg hyear]
    simp [hyear]

/-- The first second of the year ten thousand. -/
def tenThousand : Timestamp :=
  { epoch with seconds := 253402300800, notBefore := by decide, notAfter := by decide }

/-- The last second of the year before the year zero. -/
def beforeZero : Timestamp :=
  { epoch with seconds := -62167219201, notBefore := by decide, notAfter := by decide }

/-- Years beyond four digits are written with a sign that reading refuses. -/
theorem signed_year_refused :
    String.ofList tenThousand.text = "+10000-01-01T00:00:00Z" ∧
      ofText "+10000-01-01T00:00:00Z" = .error .invalid ∧
      String.ofList beforeZero.text = "-0001-12-31T23:59:59Z" ∧
      ofText "-0001-12-31T23:59:59Z" = .error .invalid := by
  decide +kernel

/-- A leap second behind the first second of 1970. -/
def insideMinute : Timestamp := { epoch with nanoseconds := 1_500_000_000, isFraction := by decide }

/-- The leap second at the end of 2016. -/
def endOf2016 : Timestamp :=
  { insideMinute with seconds := 1483228799, notBefore := by decide, notAfter := by decide }

example : String.ofList insideMinute.text = "1970-01-01T00:00:01.500Z" ∧
    ofText "1970-01-01T00:00:01.500Z" = .ok ⟨1, 500_000_000, by decide, by decide, by decide⟩ := by
  decide +kernel

end AttributeSchema.Timestamp
