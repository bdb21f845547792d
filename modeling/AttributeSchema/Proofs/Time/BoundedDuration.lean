import AttributeSchema.Proofs.Text.Slices
import AttributeSchema.Proofs.Time.DurationGrammar
/-!
# Durations are read with bounded words

Reading a duration in a loop that cuts the text at byte offsets and computes with words of 128 bits. Some
operations are checked and others are not, and where one of the latter goes wrong nothing is read at all.
None of them ever does: the loop reads what the parts of the text say, and refuses the same texts.
-/

namespace AttributeSchema.Duration

open Text Decimal
open Utf8 (byteCount cut? find?)

/-! ## Reading in rounds -/

/-- Why reading comes to no duration. -/
inductive Stop
  | fault (f : Fault)
  /-- A text is cut inside of a character or behind its end. -/
  | boundary
  /-- A result that is not checked is no word, or the divisor is zero. -/
  | arithmetic
  /-- The digits of a fraction that count are no number. -/
  | digits
  /-- There are more rounds than characters. -/
  | stuck
  /-- The nanoseconds beyond the whole seconds make up another second. -/
  | carry
  deriving DecidableEq, Repr

namespace Bounded

def cut (n : Nat) (s : List Char) : Except Stop (List Char × List Char) :=
  (cut? n s).elim (.error .boundary) .ok

/-- The result of an operation that is not checked. -/
def word (n : Nat) : Except Stop Nat := if limit ≤ n then .error .arithmetic else .ok n

def checked (n : Nat) : Except Stop Nat :=
  if limit ≤ n then .error (.fault .outOfRange) else .ok n

def divided (n divisor : Nat) : Except Stop Nat :=
  if divisor = 0 then .error .arithmetic else .ok (n / divisor)

/-- The word that digits spell, of which there is one at least. A plus sign may stand before them. -/
def readWord? (s : List Char) : Option Nat :=
  let ds := if s.head? = some '+' then s.drop 1 else s
  if ds.isEmpty ∨ !ds.all Char.isDigit ∨ limit ≤ value ds then none else some (value ds)

def wholeUnits (whole : List Char) : Except Stop Nat :=
  if whole.isEmpty then .ok 0 else (readWord? whole).elim (.error (.fault .outOfRange)) .ok

def scaleDigits (ds : List Char) (scale : Nat) : Except Stop Nat :=
  match readWord? ds with
  | none => .error .digits
  | some n => do
    let divisor ← word (10 ^ byteCount ds)
    let product ← word (n * scale)
    divided product divisor

def scaleNumber (number : List Char) (scale : Nat) : Except Stop Nat :=
  let whole := number.takeWhile (· != '.')
  let fraction := (number.dropWhile (· != '.')).drop 1
  if whole.isEmpty ∧ fraction.isEmpty then .error (.fault .malformed)
  else if !fraction.all Char.isDigit then .error (.fault .malformed)
  else do
    let units ← wholeUnits whole
    let nanos ← checked (units * scale)
    let (counted, _) ← cut (min (byteCount fraction) fractionDigits) fraction
    if counted.isEmpty then .ok nanos
    else do
      let more ← scaleDigits counted scale
      checked (nanos + more)

/-- One round of the loop, from a text that is left and a total to the next ones. -/
def round (s : List Char) (total : Nat) : Except Stop (List Char × Nat) :=
  match find? (!isNumeric ·) s with
  | none => .error (.fault .missingUnit)
  | some numberEnd => do
    let (number, tail) ← cut numberEnd s
    let (unit, rest) ← cut ((find? isNumeric tail).getD (byteCount tail)) tail
    match unitScale? unit with
    | none => .error (.fault (.unknownUnit (String.ofList unit)))
    | some scale => do
      let nanos ← scaleNumber number scale
      let total ← checked (total + nanos)
      .ok (rest, total)

def rounds : Nat → List Char → Nat → Except Stop Nat
  | _, [], total => .ok total
  | 0, _ :: _, _ => .error .stuck
  | fuel + 1, c :: s, total => do
    let (rest, total) ← round (c :: s) total
    rounds fuel rest total

/-- A duration of whole seconds, of which there is a word of 64 bits, and a remainder of 32 bits. -/
def ofTotal (total : Nat) : Except Stop Duration :=
  if hseconds : total / 1_000_000_000 < 2 ^ 64 then
    if hnanos : total % 1_000_000_000 % 2 ^ 32 < 1_000_000_000 then
      .ok ⟨total / 1_000_000_000 * 1_000_000_000 + total % 1_000_000_000 % 2 ^ 32, by omega⟩
    else .error .carry
  else .error (.fault .outOfRange)

def read (text : String) : Except Stop Duration :=
  let s := trim text.toList
  if s.isEmpty then .error (.fault .empty)
  else if s = ['0'] then .ok zero
  else do
    let total ← rounds s.length s 0
    ofTotal total

/-! ## Words -/

theorem word_eq {n : Nat} (h : n < limit) : word n = .ok n := if_neg (Nat.not_le.2 h)

theorem checked_of_le {n : Nat} (h : limit ≤ n) : checked n = .error (.fault .outOfRange) := if_pos h

theorem checked_of_lt {n : Nat} (h : n < limit) : checked n = .ok n := if_neg (Nat.not_le.2 h)

theorem checked_eq (n : Nat) :
    checked n = (if limit ≤ n then .error .outOfRange else .ok n : Except Fault Nat).mapError .fault := by
  unfold checked
  split <;> rfl

theorem readWord?_of_areDigits {ds : List Char} (hds : AreDigits ds) (hne : ds ≠ []) :
    readWord? ds = if limit ≤ value ds then none else some (value ds) := by
  have hsign : ds.head? ≠ some '+' := by
    intro hhead
    exact absurd (hds '+' (List.mem_of_mem_head? hhead)) (by decide)
  have hall : ds.all Char.isDigit = true := List.all_eq_true.2 hds
  unfold readWord?
  simp only [if_neg hsign, hall, List.isEmpty_iff, hne]
  simp

theorem wholeUnits_eq {whole : List Char} (hwhole : AreDigits whole) :
    wholeUnits whole = checked (value whole) := by
  unfold wholeUnits
  by_cases hempty : whole = []
  · subst hempty
    rfl
  · rw [if_neg (by simpa using hempty), readWord?_of_areDigits hwhole hempty]
    unfold checked
    split <;> rfl

theorem utf8Size_of_isDigit {c : Char} (h : c.isDigit = true) : c.utf8Size = 1 := by
  have hval : c.val ≤ 127 := by
    simp only [Char.isDigit, Bool.and_eq_true, decide_eq_true_eq] at h
    exact UInt32.le_trans h.2 (by decide)
  rw [Char.utf8Size]
  exact if_pos hval

/-- The digits that count make up words throughout, whatever the unit. -/
theorem counted_lt {ds : List Char} (hds : AreDigits ds) (hlength : ds.length ≤ 18) {unit : List Char}
    {scale : Nat} (hunit : unitScale? unit = some scale) :
    value ds < limit ∧ 10 ^ ds.length < limit ∧ value ds * scale < limit := by
  have hpow : 10 ^ ds.length ≤ 10 ^ 18 := Nat.pow_le_pow_right (by decide) hlength
  have hvalue : value ds < 10 ^ ds.length := value_lt hds
  have hscale : scale ≤ 3600 * 1_000_000_000 := by
    have hall : ∀ u ∈ units, u.2 ≤ 3600 * 1_000_000_000 := by decide
    exact hall _ (unitScale?_eq_some_iff.1 hunit)
  have hproduct : value ds * scale < limit := by
    calc value ds * scale ≤ 10 ^ 18 * (3600 * 1_000_000_000) := Nat.mul_le_mul (by omega) hscale
      _ < limit := by decide
  have hlimit : 10 ^ 18 < limit := by decide
  exact ⟨by omega, by omega, hproduct⟩

theorem scaleDigits_eq {ds : List Char} (hds : AreDigits ds) (hne : ds ≠ []) (hlength : ds.length ≤ 18)
    {unit : List Char} {scale : Nat} (hunit : unitScale? unit = some scale) :
    scaleDigits ds scale = .ok (value ds * scale / 10 ^ ds.length) := by
  obtain ⟨hvalue, hpow, hproduct⟩ := counted_lt hds hlength hunit
  have hbytes : byteCount ds = ds.length :=
    Utf8.byteCount_eq_length fun c hc => utf8Size_of_isDigit (hds c hc)
  have hpos : 10 ^ ds.length ≠ 0 := (Nat.pow_pos (by decide)).ne'
  unfold scaleDigits
  rw [readWord?_of_areDigits hds hne, if_neg (Nat.not_le.2 hvalue), hbytes]
  change (word (10 ^ ds.length) >>= fun divisor => word (value ds * scale) >>= fun product =>
    divided product divisor) = _
  rw [word_eq hpow, word_eq hproduct]
  exact if_neg hpos

/-- The digits that count are cut off at a byte offset. -/
theorem cut_fraction {fraction : List Char} (h : AreDigits fraction) :
    cut (min (byteCount fraction) fractionDigits) fraction =
      .ok (fraction.take fractionDigits, fraction.drop fractionDigits) := by
  have hsizes : ∀ c ∈ fraction, c.utf8Size = 1 := fun c hc => utf8Size_of_isDigit (h c hc)
  have hcut := Utf8.cut?_eq_take hsizes (n := min fraction.length fractionDigits) (Nat.min_le_left _ _)
  unfold cut
  rw [Utf8.byteCount_eq_length hsizes, hcut]
  rcases Nat.le_total fraction.length fractionDigits with hshort | hlong
  · rw [Nat.min_eq_left hshort, List.take_of_length_le hshort, List.drop_of_length_le hshort,
      List.take_length, List.drop_length]
    rfl
  · rw [Nat.min_eq_right hlong]
    rfl

/-! ## Numbers -/

/-- The words of a number in a known unit say what the number says, or are refused as it is. -/
theorem scaleNumber_eq {number unit : List Char} {scale : Nat}
    (hnumeric : ∀ c ∈ number, isNumeric c = true) (hunit : unitScale? unit = some scale) :
    scaleNumber number scale = (scaled number scale).mapError .fault := by
  have hwhole : AreDigits (number.takeWhile (· != '.')) := by
    apply areDigits_of_isNumeric
    · exact fun c hc => hnumeric c ((List.takeWhile_sublist _).subset hc)
    · intro hpoint
      exact absurd (List.mem_takeWhile_imp hpoint) (by decide)
  unfold scaleNumber scaled
  generalize number.takeWhile (· != '.') = whole at hwhole ⊢
  generalize (number.dropWhile (· != '.')).drop 1 = fraction
  by_cases hempty : whole.isEmpty ∧ fraction.isEmpty
  · rw [if_pos hempty, if_pos hempty]
    rfl
  by_cases hdigits : fraction.all Char.isDigit = true
  · have hfraction : AreDigits fraction := List.all_eq_true.1 hdigits
    have hnot : ¬ (!fraction.all Char.isDigit) = true := by simp [hdigits]
    rw [if_neg hempty, if_neg hempty, if_neg hnot, if_neg hnot, wholeUnits_eq hwhole,
      cut_fraction hfraction]
    by_cases hvalue : limit ≤ value whole
    · rw [checked_of_le hvalue, if_pos hvalue]
      rfl
    by_cases hunits : limit ≤ value whole * scale
    · rw [checked_of_lt (Nat.lt_of_not_le hvalue), if_neg hvalue, if_pos hunits]
      simp only [bind, Except.bind, checked_of_le hunits]
      rfl
    · rw [checked_of_lt (Nat.lt_of_not_le hvalue), if_neg hvalue, if_neg hunits]
      simp only [bind, Except.bind, checked_of_lt (Nat.lt_of_not_le hunits)]
      have hcounted : AreDigits (fraction.take fractionDigits) := fun c hc =>
        hfraction c (List.mem_of_mem_take hc)
      by_cases hnone : fraction.take fractionDigits = []
      · -- Without a fraction the units are all there is.
        simp [hnone, hunits, Except.mapError]
      · have hlength : (fraction.take fractionDigits).length ≤ 18 := List.length_take_le _ _
        rw [if_neg (by simpa using hnone), scaleDigits_eq hcounted hnone hlength hunit, Nat.pow_eq]
        exact checked_eq _
  · have hnot : (!fraction.all Char.isDigit) = true := by simpa using hdigits
    rw [if_neg hempty, if_neg hempty, if_pos hnot, if_pos hnot]
    rfl

/-! ## Rounds -/

theorem cut_byteCount (a b : List Char) : cut (byteCount a) (a ++ b) = .ok (a, b) := by
  unfold cut
  rw [Utf8.cut?_byteCount]
  rfl

/-- A round reads the first part of a text, whatever the lengths of the characters in it. -/
theorem round_eq {p : Part} (hnumber : ∀ c ∈ p.number, isNumeric c = true)
    (hunit : ∀ c ∈ p.unit, isNumeric c = false) {rest : List Char}
    (hnumberEnd : p.unit = [] → rest = []) (hunitEnd : rest.head?.all isNumeric = true) (total : Nat) :
    round (p.text ++ rest) total =
      match p.nanoseconds with
      | .error fault => .error (.fault fault)
      | .ok nanos => (checked (total + nanos)).map fun total => (rest, total) := by
  obtain ⟨number, unit⟩ := p
  have hnot : ∀ c ∈ number, (!isNumeric c) = false := fun c hc => by simp [hnumber c hc]
  unfold round Part.nanoseconds
  cases unit with
  | nil =>
      have hrest : rest = [] := hnumberEnd rfl
      have htext : Part.text ⟨number, []⟩ ++ rest = number := by simp [Part.text, hrest]
      rw [htext, Utf8.find?_eq_none hnot]
      rfl
  | cons u unit =>
      have htext : Part.text ⟨number, u :: unit⟩ ++ rest = number ++ u :: (unit ++ rest) := by
        simp [Part.text]
      have hu : (!isNumeric u) = true := by simp [hunit u List.mem_cons_self]
      have hunitOffset : (find? isNumeric (u :: (unit ++ rest))).getD (byteCount (u :: (unit ++ rest))) =
          byteCount (u :: unit) := by
        cases rest with
        | nil =>
            rw [List.append_nil, Utf8.find?_eq_none hunit]
            rfl
        | cons d rest =>
            have hd : isNumeric d = true := by simpa using hunitEnd
            rw [← List.cons_append, Utf8.find?_append hunit hd]
            rfl
      rw [htext, Utf8.find?_append hnot hu]
      simp only [bind, Except.bind, cut_byteCount, hunitOffset]
      rw [← List.cons_append, cut_byteCount]
      cases hscale : unitScale? (u :: unit) with
      | none => simp [hscale]
      | some scale =>
          simp only [hscale, scaleNumber_eq hnumber hscale, List.isEmpty_cons, Bool.false_eq_true,
            if_false]
          cases scaled number scale with
          | error fault => rfl
          | ok nanos =>
              simp only [Except.mapError]
              cases checked (total + nanos) <;> rfl

/-- A round ends with a fault, or it takes a character at least and leaves a word. -/
theorem round_cases {s : List Char} (hs : s ≠ []) (total : Nat) :
    (∃ fault, round s total = .error (.fault fault)) ∨
      ∃ taken rest sum, taken ≠ [] ∧ s = taken ++ rest ∧ sum < limit ∧
        round s total = .ok (rest, sum) := by
  obtain ⟨ps, hcut⟩ : ∃ ps, IsCut s ps := ⟨parts s, isCut_parts s⟩
  cases hcut with
  | nil => exact absurd rfl hs
  | @cons p rest ps hnumber hunit hne hnumberEnd hunitEnd hrest =>
      rw [round_eq hnumber hunit hnumberEnd hunitEnd]
      cases p.nanoseconds with
      | error fault => exact .inl ⟨fault, rfl⟩
      | ok nanos =>
          by_cases hlimit : limit ≤ total + nanos
          · refine .inl ⟨.outOfRange, ?_⟩
            simp only [checked_of_le hlimit]
            rfl
          · refine .inr ⟨p.text, rest, total + nanos, hne, rfl, Nat.lt_of_not_le hlimit, ?_⟩
            simp only [checked_of_lt (Nat.lt_of_not_le hlimit)]
            rfl

/-- With a round for each character, the loop comes to its end. -/
theorem rounds_eq {s : List Char} {ps : List Part} (hcut : IsCut s ps) {fuel : Nat}
    (hfuel : s.length ≤ fuel) (total : Nat) : rounds fuel s total = (sum total ps).mapError .fault := by
  -- The total grows from round to round, and fuel goes with every one.
  induction hcut generalizing fuel total with
  | nil =>
      rw [sum, rounds]
      rfl
  | @cons p rest ps hnumber hunit hne hnumberEnd hunitEnd hrest ih =>
      have hround := round_eq hnumber hunit hnumberEnd hunitEnd total
      have hlength : 0 < p.text.length := List.length_pos_of_ne_nil hne
      rw [List.length_append] at hfuel
      obtain ⟨fuel, rfl⟩ := Nat.exists_eq_add_one_of_ne_zero (n := fuel) (by omega)
      obtain ⟨c, s, hs⟩ := List.exists_cons_of_ne_nil (List.append_ne_nil_of_left_ne_nil hne rest)
      rw [hs] at hround ⊢
      rw [rounds, hround, sum]
      cases p.nanoseconds with
      | error fault => rfl
      | ok nanos =>
          by_cases hlimit : limit ≤ total + nanos
          · simp only [if_pos hlimit, checked_of_le hlimit]
            rfl
          · simp only [if_neg hlimit, checked_of_lt (Nat.lt_of_not_le hlimit)]
            have hfewer : rest.length ≤ fuel := by omega
            rw [← ih hfewer]
            rfl

theorem ofTotal_eq (total : Nat) :
    ofTotal total = (ofNanoseconds? total).elim (.error (.fault .outOfRange)) .ok := by
  have hword : total % 1_000_000_000 % 2 ^ 32 = total % 1_000_000_000 :=
    Nat.mod_eq_of_lt (Nat.lt_of_lt_of_le (Nat.mod_lt _ (by decide)) (by decide))
  have hremainder : total % 1_000_000_000 % 2 ^ 32 < 1_000_000_000 := by
    rw [hword]
    exact Nat.mod_lt _ (by decide)
  unfold ofTotal ofNanoseconds?
  by_cases hseconds : total / 1_000_000_000 < 2 ^ 64
  · have hbound : total < 0x1_0000_0000_0000_0000 * 1_000_000_000 := by omega
    have hsum : total / 1_000_000_000 * 1_000_000_000 + total % 1_000_000_000 % 2 ^ 32 = total := by
      rw [hword]
      exact Nat.div_add_mod' total _
    rw [dif_pos hseconds, dif_pos hremainder, dif_pos hbound]
    simp only [hsum]
    rfl
  · have hbound : ¬ total < 0x1_0000_0000_0000_0000 * 1_000_000_000 := by omega
    rw [dif_neg hseconds, dif_neg hbound]
    rfl

theorem read_eq (text : String) : read text = (ofText text).mapError .fault := by
  unfold read ofText parse
  by_cases hempty : (trim text.toList).isEmpty
  · simp only [if_pos hempty]
    rfl
  by_cases hzero : trim text.toList = ['0']
  · simp only [hzero]
    rfl
  · simp only [if_neg hempty, if_neg hzero, rounds_eq (isCut_parts _) (Nat.le_refl _)]
    cases sum 0 (parts (trim text.toList)) with
    | error fault => rfl
    | ok total =>
        change ofTotal total = _
        rw [ofTotal_eq]
        cases h : ofNanoseconds? total with
        | none =>
            simp only [h]
            rfl
        | some d =>
            simp only [h]
            rfl

/-- Only a fault stops reading: texts are cut between characters, results are words, no digits are left
over, and the rounds come to an end, since each one takes a character at least. -/
theorem read_stops_only_by_fault :
    (∀ text, read text = (ofText text).mapError .fault) ∧
    (∀ s total, rounds s.length s total = (sum total (parts s)).mapError .fault) ∧
    (∀ s total, s ≠ [] → (∃ fault, round s total = .error (.fault fault)) ∨
      ∃ taken rest next, taken ≠ [] ∧ s = taken ++ rest ∧ next < limit ∧
        round s total = .ok (rest, next)) ∧
    (∀ number unit scale, (∀ c ∈ number, isNumeric c = true) → unitScale? unit = some scale →
      scaleNumber number scale = (scaled number scale).mapError .fault) ∧
    ∀ total, ofTotal total = (ofNanoseconds? total).elim (.error (.fault .outOfRange)) .ok :=
  ⟨read_eq, fun s total => rounds_eq (isCut_parts s) (Nat.le_refl _) total,
    fun _ total hs => round_cases hs total, fun _ _ _ => scaleNumber_eq, ofTotal_eq⟩

/-- The unit of the first part has a character of two bytes. -/
theorem read_stops_only_by_fault_micros :
    read "1µs2.5h" = .ok ⟨9_000_000_001_000, by decide⟩ ∧
      "1µs2.5h".toList ≠ [] ∧
      (∃ taken rest next, taken ≠ [] ∧ "1µs2.5h".toList = taken ++ rest ∧
        round "1µs2.5h".toList 0 = .ok (rest, next)) ∧
      (∀ c ∈ "2.5".toList, isNumeric c = true) ∧ unitScale? ['h'] = some (3600 * 1_000_000_000) ∧
      scaleNumber "2.5".toList (3600 * 1_000_000_000) = .ok 9_000_000_000_000 := by
  obtain ⟨hread, -, hround, hscale, -⟩ := read_stops_only_by_fault
  have hne : "1µs2.5h".toList ≠ [] := by decide
  have hnumeric : ∀ c ∈ "2.5".toList, isNumeric c = true := List.all_eq_true.1 (by decide)
  have hgood : (round "1µs2.5h".toList 0).isOk = true := by decide +kernel
  have hunit : unitScale? ['h'] = some (3600 * 1_000_000_000) := by decide
  refine ⟨?_, hne, ?_, hnumeric, hunit, ?_⟩
  · rw [hread]
    decide +kernel
  · rcases hround _ 0 hne with ⟨fault, hfault⟩ | ⟨taken, rest, next, htaken, hs, -, hok⟩
    · rw [hfault] at hgood
      cases hgood
    · exact ⟨taken, rest, next, htaken, hs, hok⟩
  · rw [hscale _ _ _ hnumeric hunit]
    decide +kernel

end Bounded

end AttributeSchema.Duration
