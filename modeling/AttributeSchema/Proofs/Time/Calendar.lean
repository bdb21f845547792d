import AttributeSchema.Time.Calendar
/-!
# Days and dates

Every day lies in the year that `yearOf` gives, and its date leads back to it.
-/

namespace AttributeSchema.Calendar

def yearLength (year : Int) : Nat := if isLeap year then 366 else 365

theorem isLeap_iff (year : Int) :
    isLeap year = true ↔ year % 4 = 0 ∧ (year % 100 ≠ 0 ∨ year % 400 = 0) := by
  simp [isLeap]

theorem firstDay_eq (year : Int) :
    firstDay year =
      365 * (year - 1970) + ((year - 1) / 4 - (year - 1) / 100 + (year - 1) / 400) - 477 := by
  have h : leapsBefore 1970 = 477 := by decide
  rw [firstDay, h, leapsBefore]

theorem firstDay_succ (year : Int) : firstDay (year + 1) = firstDay year + yearLength year := by
  have hleap := isLeap_iff year
  rw [firstDay_eq, firstDay_eq, yearLength]
  split
  · rename_i h
    rw [h] at hleap
    simp only [true_iff] at hleap
    omega
  · rename_i h
    rw [Bool.not_eq_true] at h
    rw [h] at hleap
    simp only [Bool.false_eq_true, false_iff] at hleap
    omega

/-- A year that is guessed from the mean length of years is at most one too early or too late. -/
theorem firstDay_guess (day : Int) :
    firstDay (1970 + 400 * day / 146097 - 1) ≤ day ∧
      day < firstDay (1970 + 400 * day / 146097 + 1 + 1) := by
  simp only [firstDay_eq]
  omega

/-- The year of a day has started on that day, and the next one has not. -/
theorem yearOf_spec (day : Int) :
    firstDay (yearOf day) ≤ day ∧ day < firstDay (yearOf day + 1) := by
  obtain ⟨hlow, hhigh⟩ := firstDay_guess day
  unfold yearOf
  simp only []
  split
  · rename_i hbefore
    exact ⟨hlow, by rwa [Int.sub_add_cancel]⟩
  · rename_i hstarted
    split
    · rename_i hafter
      exact ⟨hafter, hhigh⟩
    · rename_i hnext
      exact ⟨Int.not_lt.1 hstarted, Int.not_le.1 hnext⟩

/-! ## Months -/

theorem sum_monthLengths (leap : Bool) :
    (monthLengths leap).foldr (· + ·) 0 = if leap then 366 else 365 := by
  cases leap <;> rfl

/-- Where a day of the year lies: in the `i`-th of the given months, of which the first has a number. -/
theorem locate_spec (month : Nat) {rest : Nat} {lengths : List Nat}
    (h : rest < lengths.foldr (· + ·) 0) :
    ∃ i length, lengths[i]? = some length ∧
      (locate month rest lengths).1 = month + i ∧
      1 ≤ (locate month rest lengths).2 ∧ (locate month rest lengths).2 ≤ length ∧
      (lengths.take i).foldr (· + ·) 0 + (locate month rest lengths).2 = rest + 1 := by
  induction lengths generalizing month rest with
  | nil => exact absurd h (Nat.not_lt_zero _)
  | cons length more ih =>
      rw [List.foldr_cons] at h
      unfold locate
      split
      · rename_i hlt
        exact ⟨0, length, rfl, rfl, by simp, Nat.succ_le_of_lt hlt, by simp⟩
      · rename_i hge
        obtain ⟨i, found, hi, hmonth, hlow, hhigh, hsum⟩ :=
          ih (month + 1) (show rest - length < more.foldr (· + ·) 0 by omega)
        refine ⟨i + 1, found, by simpa using hi, by omega, hlow, hhigh, ?_⟩
        rw [List.take_succ_cons, List.foldr_cons]
        omega

/-! ## Dates -/

/-- The date of a day exists, and leads back to the day. -/
theorem ofDay_spec (day : Int) :
    (Date.ofDay day).year = yearOf day ∧ (Date.ofDay day).isValid = true ∧
      (Date.ofDay day).toDay = day := by
  obtain ⟨hlow, hhigh⟩ := yearOf_spec day
  have hnext := firstDay_succ (yearOf day)
  have hrest : (day - firstDay (yearOf day)).toNat <
      (monthLengths (isLeap (yearOf day))).foldr (· + ·) 0 := by
    rw [sum_monthLengths]
    unfold yearLength at hnext
    omega
  obtain ⟨i, length, hi, hmonth, hone, hle, hsum⟩ := locate_spec 1 hrest
  refine ⟨rfl, ?_, ?_⟩
  · have hindex : 1 + i - 1 = i := by omega
    simp only [Date.isValid, Date.ofDay, Bool.and_eq_true, decide_eq_true_eq, hmonth, hindex, hi,
      Option.any_some]
    exact ⟨⟨by omega, hone⟩, hle⟩
  · have hindex : 1 + i - 1 = i := by omega
    simp only [Date.toDay, Date.ofDay, daysBefore, hmonth, hindex]
    omega

theorem monthLengths_le (leap : Bool) : ∀ length ∈ monthLengths leap, length ≤ 31 := by
  cases leap <;> decide

/-- Months and days of dates that exist have two digits. -/
theorem Date.lt_of_isValid {d : Date} (h : d.isValid = true) : d.month < 100 ∧ d.day < 100 := by
  simp only [Date.isValid, Bool.and_eq_true, decide_eq_true_eq] at h
  obtain ⟨-, hday⟩ := h
  cases hlength : (monthLengths (isLeap d.year))[d.month - 1]? with
  | none =>
      rw [hlength] at hday
      exact absurd hday (by simp)
  | some length =>
      rw [hlength] at hday
      have hle : d.day ≤ length := by simpa using hday
      have hlt : d.month - 1 < (monthLengths (isLeap d.year)).length :=
        (List.getElem?_eq_some_iff.1 hlength).1
      have hmem : length ≤ 31 := monthLengths_le _ _ (List.mem_of_getElem? hlength)
      have hcount : (monthLengths (isLeap d.year)).length = 12 := rfl
      omega

end AttributeSchema.Calendar
