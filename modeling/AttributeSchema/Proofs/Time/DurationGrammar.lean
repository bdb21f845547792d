import AttributeSchema.Proofs.Time.Duration
/-!
# The grammar of durations

Which texts are durations, what they say, and why the others are none. A text is cut into parts, each as
long as it can be; a duration is a sequence of good parts, and the first bad part tells what is wrong.
-/

namespace AttributeSchema.Duration

open Text Decimal

/-! ## The grammar -/

/-- A text cut into numbers with their units, each of which ends only where it has to. -/
inductive IsCut : List Char → List Part → Prop
  | nil : IsCut [] []
  | cons {p : Part} {rest : List Char} {ps : List Part}
      (hnumber : ∀ c ∈ p.number, isNumeric c = true)
      (hunit : ∀ c ∈ p.unit, isNumeric c = false) (hne : p.text ≠ [])
      (hnumberEnd : p.unit = [] → rest = []) (hunitEnd : rest.head?.all isNumeric = true)
      (hrest : IsCut rest ps) : IsCut (p.text ++ rest) (p :: ps)

def units : List (String × Nat) :=
  [("ns", 1), ("us", 1000), ("µs", 1000), ("ms", 1_000_000), ("s", 1_000_000_000),
    ("m", 60 * 1_000_000_000), ("h", 3600 * 1_000_000_000)]

/-- At least one digit and at most one point. -/
def IsNumber (number : List Char) : Prop :=
  1 ≤ number.countP Char.isDigit ∧ number.count '.' ≤ 1

/-- How many whole units a number says, and how many nanoseconds; eighteen digits of a fraction count. -/
inductive IsAmount (scale : Nat) : List Char → Nat → Nat → Prop
  | whole {ds : List Char} (hds : AreDigits ds) (hne : ds ≠ []) :
      IsAmount scale ds (value ds) (value ds * scale)
  | fractional {ds fraction : List Char} (hds : AreDigits ds) (hfraction : AreDigits fraction)
      (hne : ds ≠ [] ∨ fraction ≠ []) :
      IsAmount scale (ds ++ '.' :: fraction) (value ds)
        (value ds * scale + value (fraction.take 18) * scale / 10 ^ (fraction.take 18).length)

def Part.Says (p : Part) (nanos : Nat) : Prop :=
  ∃ scale whole, (String.ofList p.unit, scale) ∈ units ∧ IsAmount scale p.number whole nanos

/-- What is wrong with a part behind others that make up a total. -/
inductive Part.IsFault (total : Nat) (p : Part) : Fault → Prop
  | missingUnit (h : p.unit = []) : p.IsFault total .missingUnit
  | unknownUnit (hne : p.unit ≠ []) (h : ∀ scale, (String.ofList p.unit, scale) ∉ units) :
      p.IsFault total (.unknownUnit (String.ofList p.unit))
  | malformed {scale : Nat} (hunit : (String.ofList p.unit, scale) ∈ units)
      (h : ¬ IsNumber p.number) : p.IsFault total .malformed
  | outOfRange {scale whole nanos : Nat} (hunit : (String.ofList p.unit, scale) ∈ units)
      (hamount : IsAmount scale p.number whole nanos)
      (h : 2 ^ 128 ≤ whole ∨ 2 ^ 128 ≤ nanos ∨ 2 ^ 128 ≤ total + nanos) :
      p.IsFault total .outOfRange

inductive IsRead : List Char → Except Fault Duration → Prop
  | empty : IsRead [] (.error .empty)
  | zero : IsRead ['0'] (.ok .zero)
  | sum {s : List Char} {ps : List Part} {ns : List Nat} {d : Duration} (hzero : s ≠ ['0'])
      (hcut : IsCut s ps) (hne : ps ≠ []) (hgood : List.Forall₂ Part.Says ps ns)
      (hsum : d.nanoseconds = ns.sum) : IsRead s (.ok d)
  | fault {s : List Char} {before after : List Part} {p : Part} {ns : List Nat} {fault : Fault}
      (hzero : s ≠ ['0']) (hcut : IsCut s (before ++ p :: after))
      (hgood : List.Forall₂ Part.Says before ns) (hlimit : ns.sum < 2 ^ 128)
      (hfault : p.IsFault ns.sum fault) : IsRead s (.error fault)
  | tooLong {s : List Char} {ps : List Part} {ns : List Nat} (hzero : s ≠ ['0']) (hcut : IsCut s ps)
      (hgood : List.Forall₂ Part.Says ps ns) (hlimit : ns.sum < 2 ^ 128)
      (hrange : 2 ^ 64 * 1_000_000_000 ≤ ns.sum) : IsRead s (.error .outOfRange)

/-! ## Cutting -/

theorem isCut_parts (s : List Char) : IsCut s (parts s) := by
  induction s using parts.induct with
  | case1 =>
      rw [parts]
      exact .nil
  | case2 c rest behind ih =>
      have hbehind : behind.head?.all (!isNumeric ·) = true := head?_dropWhile isNumeric (c :: rest)
      have hnumberEnd : behind.takeWhile (!isNumeric ·) = [] →
          behind.dropWhile (!isNumeric ·) = [] := by
        cases hs : behind with
        | nil => simp
        | cons d s =>
            have hd : isNumeric d = false := by simpa [hs] using hbehind
            simp [hd]
      have hne : (c :: rest).takeWhile isNumeric ++ behind.takeWhile (!isNumeric ·) ≠ [] := by
        cases hc : isNumeric c with
        | true => simp [hc]
        | false => simp [behind, hc]
      have hunitEnd : (behind.dropWhile (!isNumeric ·)).head?.all isNumeric = true := by
        simpa using head?_dropWhile (!isNumeric ·) behind
      have hcut : IsCut _
          (⟨(c :: rest).takeWhile isNumeric, behind.takeWhile (!isNumeric ·)⟩ :: _) :=
        .cons (fun d hd => List.mem_takeWhile_imp hd)
          (fun d hd => by simpa using List.mem_takeWhile_imp hd) hne hnumberEnd hunitEnd ih
      rw [parts]
      rwa [Part.text, List.append_assoc, List.takeWhile_append_dropWhile,
        List.takeWhile_append_dropWhile] at hcut

theorem isCut_iff {s : List Char} {ps : List Part} : IsCut s ps ↔ parts s = ps := by
  constructor
  · intro h
    induction h with
    | nil => rw [parts]
    | cons hnumber hunit hne hnumberEnd hunitEnd _ ih =>
        rw [parts_of_cut hnumber hunit hne hnumberEnd hunitEnd, ih]
  · rintro rfl
    exact isCut_parts s

theorem isNumeric_of_mem_parts (s : List Char) :
    ∀ p ∈ parts s, ∀ c ∈ p.number, isNumeric c = true := by
  have hcut := isCut_parts s
  generalize parts s = ps at hcut
  induction hcut with
  | nil => exact fun p hp => absurd hp List.not_mem_nil
  | cons hnumber _ _ _ _ _ ih => exact List.forall_mem_cons.2 ⟨hnumber, ih⟩

/-! ## Numbers -/

theorem limit_eq : limit = 2 ^ 128 := by decide

theorem areDigits_of_isNumeric {s : List Char} (h : ∀ c ∈ s, isNumeric c = true)
    (hpoint : '.' ∉ s) : AreDigits s := by
  intro c hc
  rcases Bool.or_eq_true_iff.1 (h c hc) with hdigit | hdot
  · exact hdigit
  · exact absurd (beq_iff_eq.1 hdot ▸ hc) hpoint

theorem point_not_mem {ds : List Char} (h : AreDigits ds) : '.' ∉ ds :=
  fun hmem => absurd (h _ hmem) (by decide)

theorem areDigits_or_point {number : List Char} (h : ∀ c ∈ number, isNumeric c = true) :
    AreDigits number ∨
      ∃ ds fraction, AreDigits ds ∧ (∀ c ∈ fraction, isNumeric c = true) ∧
        number = ds ++ '.' :: fraction := by
  by_cases hpoint : '.' ∈ number
  · obtain ⟨ds, fraction, rfl, hds⟩ := List.eq_append_cons_of_mem hpoint
    refine .inr ⟨ds, fraction, areDigits_of_isNumeric (fun c hc => h c ?_) hds,
      fun c hc => h c ?_, rfl⟩
    · exact List.mem_append_left _ hc
    · exact List.mem_append_right _ (List.mem_cons_of_mem _ hc)
  · exact .inl (areDigits_of_isNumeric h hpoint)

theorem countP_isDigit {ds : List Char} (h : AreDigits ds) :
    ds.countP Char.isDigit = ds.length ∧ ds.count '.' = 0 :=
  ⟨List.countP_eq_length.2 h, List.count_eq_zero.2 (point_not_mem h)⟩

theorem isNumber_iff_of_areDigits {ds : List Char} (h : AreDigits ds) : IsNumber ds ↔ ds ≠ [] := by
  rw [IsNumber, (countP_isDigit h).1, (countP_isDigit h).2, ← List.length_pos_iff]
  omega

theorem isNumber_append_point {ds fraction : List Char} (hds : AreDigits ds)
    (hfraction : ∀ c ∈ fraction, isNumeric c = true) :
    IsNumber (ds ++ '.' :: fraction) ↔ (ds ≠ [] ∨ fraction ≠ []) ∧ AreDigits fraction := by
  have hcount : IsNumber (ds ++ '.' :: fraction) ↔
      1 ≤ ds.length + fraction.countP Char.isDigit ∧ fraction.count '.' = 0 := by
    rw [IsNumber, List.countP_append, List.count_append, (countP_isDigit hds).1,
      (countP_isDigit hds).2, List.countP_cons_of_neg (by decide), List.count_cons_self]
    omega
  rw [hcount, ← List.length_pos_iff, ← List.length_pos_iff]
  constructor
  · rintro ⟨hdigits, hpoints⟩
    have hareDigits := areDigits_of_isNumeric hfraction (List.count_eq_zero.1 hpoints)
    rw [(countP_isDigit hareDigits).1] at hdigits
    exact ⟨by omega, hareDigits⟩
  · rintro ⟨hne, hareDigits⟩
    rw [(countP_isDigit hareDigits).1, (countP_isDigit hareDigits).2]
    exact ⟨by omega, rfl⟩

theorem exists_isAmount {number : List Char} (hnumeric : ∀ c ∈ number, isNumeric c = true)
    (h : IsNumber number) (scale : Nat) : ∃ whole nanos, IsAmount scale number whole nanos := by
  rcases areDigits_or_point hnumeric with hds | ⟨ds, fraction, hds, hfraction, rfl⟩
  · exact ⟨_, _, .whole hds ((isNumber_iff_of_areDigits hds).1 h)⟩
  · obtain ⟨hne, hdigits⟩ := (isNumber_append_point hds hfraction).1 h
    exact ⟨_, _, .fractional hds hdigits hne⟩

theorem scaled_of_not_isNumber {number : List Char} (hnumeric : ∀ c ∈ number, isNumeric c = true)
    (h : ¬ IsNumber number) (scale : Nat) : scaled number scale = .error .malformed := by
  rcases areDigits_or_point hnumeric with hds | ⟨ds, fraction, hds, hfraction, rfl⟩
  · rw [isNumber_iff_of_areDigits hds, not_not] at h
    rw [h, scaled, if_pos ⟨rfl, rfl⟩]
  · obtain ⟨htake, hdrop⟩ := takeWhile_ne_point hds fraction
    rw [isNumber_append_point hds hfraction, not_and_or] at h
    simp only [scaled, htake, hdrop, List.drop_succ_cons, List.drop_zero, List.isEmpty_iff]
    rcases h with hempty | hdigits
    · rw [if_pos (by simpa using hempty)]
    · have hall : fraction.all Char.isDigit = false := by
        rw [← Bool.not_eq_true, List.all_eq_true]
        exact hdigits
      split
      · rfl
      · rw [if_pos (by rw [hall]; rfl)]

/-- What a number says is out of range, or it is the result. -/
theorem scaled_of_isAmount {number : List Char} {scale whole nanos : Nat}
    (h : IsAmount scale number whole nanos) :
    scaled number scale =
      if limit ≤ whole ∨ limit ≤ nanos then .error .outOfRange else .ok nanos := by
  cases h with
  | whole hds hne => exact scaled_of_areDigits hne hds
  | fractional hds hfraction hne => exact scaled_append_point hne hds hfraction

theorem whole_le_of_isAmount {number : List Char} {scale whole nanos : Nat} (hscale : 1 ≤ scale)
    (h : IsAmount scale number whole nanos) : whole ≤ nanos := by
  cases h with
  | whole => exact Nat.le_mul_of_pos_right _ hscale
  | fractional => exact Nat.le_trans (Nat.le_mul_of_pos_right _ hscale) (Nat.le_add_right _ _)

/-! ## Parts -/

theorem unitScale?_eq_some_iff {unit : List Char} {scale : Nat} :
    unitScale? unit = some scale ↔ (String.ofList unit, scale) ∈ units := by
  unfold unitScale?
  generalize String.ofList unit = u
  split
  case h_8 => simp_all [units]
  all_goals simp [units, eq_comm]

theorem unitScale?_eq_none_iff {unit : List Char} :
    unitScale? unit = none ↔ ∀ scale, (String.ofList unit, scale) ∉ units := by
  simp only [Option.eq_none_iff_forall_ne_some, ne_eq, unitScale?_eq_some_iff]

theorem one_le_of_mem_units {unit : String} {scale : Nat} (h : (unit, scale) ∈ units) :
    1 ≤ scale := by
  have hall : ∀ u ∈ units, 1 ≤ u.2 := by decide
  exact hall _ h

theorem Part.nanoseconds_of_mem_units {p : Part} {scale : Nat}
    (h : (String.ofList p.unit, scale) ∈ units) : p.nanoseconds = scaled p.number scale := by
  have hne : p.unit ≠ [] := by
    intro hnil
    rw [hnil] at h
    simp [units] at h
  rw [Part.nanoseconds, if_neg (by simpa using hne), unitScale?_eq_some_iff.2 h]

theorem Part.Says.nanoseconds {p : Part} {nanos : Nat} (h : p.Says nanos) (hlimit : nanos < limit) :
    p.nanoseconds = .ok nanos := by
  obtain ⟨scale, whole, hunit, hamount⟩ := h
  have hwhole := whole_le_of_isAmount (one_le_of_mem_units hunit) hamount
  rw [nanoseconds_of_mem_units hunit, scaled_of_isAmount hamount, if_neg (by omega)]

theorem Part.IsFault.sum {p : Part} {total : Nat} {fault : Fault} (h : p.IsFault total fault)
    (hnumeric : ∀ c ∈ p.number, isNumeric c = true) (after : List Part) :
    sum total (p :: after) = .error fault := by
  rw [Duration.sum]
  cases h with
  | missingUnit h => simp [Part.nanoseconds, h]
  | unknownUnit hne h => simp [Part.nanoseconds, hne, unitScale?_eq_none_iff.2 h]
  | malformed hunit h =>
      rw [nanoseconds_of_mem_units hunit, scaled_of_not_isNumber hnumeric h]
  | outOfRange hunit hamount h =>
      rw [← limit_eq] at h
      rw [nanoseconds_of_mem_units hunit, scaled_of_isAmount hamount]
      split_ifs with hnumber
      · rfl
      · exact if_pos (by omega)

/-- Behind others that make up a total, a part says something, or it is at fault. -/
theorem Part.says_or_isFault {p : Part} (hnumeric : ∀ c ∈ p.number, isNumeric c = true)
    (total : Nat) :
    (∃ nanos, p.Says nanos ∧ total + nanos < limit) ∨ ∃ fault, p.IsFault total fault := by
  by_cases hunit : p.unit = []
  · exact .inr ⟨_, .missingUnit hunit⟩
  · cases hscale : unitScale? p.unit with
    | none => exact .inr ⟨_, .unknownUnit hunit (unitScale?_eq_none_iff.1 hscale)⟩
    | some scale =>
        have hmem := unitScale?_eq_some_iff.1 hscale
        by_cases hnumber : IsNumber p.number
        · obtain ⟨whole, nanos, hamount⟩ := exists_isAmount hnumeric hnumber scale
          by_cases hlimit : total + nanos < limit
          · exact .inl ⟨nanos, ⟨scale, whole, hmem, hamount⟩, hlimit⟩
          · rw [limit_eq, Nat.not_lt] at hlimit
            exact .inr ⟨_, .outOfRange hmem hamount (.inr (.inr hlimit))⟩
        · exact .inr ⟨_, .malformed hmem hnumber⟩

/-! ## Sums -/

theorem sum_of_forall_good {ps : List Part} {ns : List Nat} (h : List.Forall₂ Part.Says ps ns)
    (total : Nat) (hlimit : total + ns.sum < limit) : sum total ps = .ok (total + ns.sum) := by
  induction h generalizing total with
  | nil => rw [sum, List.sum_nil, Nat.add_zero]
  | cons hgood _ ih =>
      rw [List.sum_cons, ← Nat.add_assoc] at hlimit ⊢
      rw [sum_cons (hgood.nanoseconds (by omega)) (by omega), ih _ hlimit]

/-- All parts say something within the limit, or one part is the first that is at fault. -/
theorem says_or_isFault {ps : List Part}
    (hnumeric : ∀ p ∈ ps, ∀ c ∈ p.number, isNumeric c = true) (total : Nat)
    (hlimit : total < limit) :
    (∃ ns, List.Forall₂ Part.Says ps ns ∧ total + ns.sum < limit) ∨
      ∃ before p after ns fault, ps = before ++ p :: after ∧ List.Forall₂ Part.Says before ns ∧
        total + ns.sum < limit ∧ p.IsFault (total + ns.sum) fault := by
  -- A part is judged on top of the total before it, so the induction is for every total.
  induction ps generalizing total with
  | nil => exact .inl ⟨[], .nil, hlimit⟩
  | cons p ps ih =>
      obtain ⟨hp, hps⟩ := List.forall_mem_cons.1 hnumeric
      rcases Part.says_or_isFault hp total with ⟨nanos, hgood, hbound⟩ | ⟨fault, hfault⟩
      · rcases ih hps _ hbound with
          ⟨ns, hns, hsum⟩ | ⟨before, q, after, ns, fault, rfl, hns, hsum, hfault⟩
        · refine .inl ⟨nanos :: ns, .cons hgood hns, ?_⟩
          rwa [List.sum_cons, ← Nat.add_assoc]
        · refine .inr ⟨p :: before, q, after, nanos :: ns, fault, rfl, .cons hgood hns, ?_⟩
          rw [List.sum_cons, ← Nat.add_assoc]
          exact ⟨hsum, hfault⟩
      · exact .inr ⟨[], p, ps, [], fault, rfl, .nil, hlimit, hfault⟩

/-! ## Texts -/

theorem parse_eq {s : List Char} {ps : List Part} (hzero : s ≠ ['0']) (hcut : IsCut s ps)
    (hps : ps ≠ []) :
    parse s =
      match sum 0 ps with
      | .error fault => .error fault
      | .ok total => (ofNanoseconds? total).elim (.error .outOfRange) .ok := by
  have hparts := isCut_iff.1 hcut
  -- The empty text has no parts.
  have hempty : s ≠ [] := by
    rintro rfl
    rw [parts] at hparts
    exact hps hparts.symm
  rw [parse, if_neg (by simpa using hempty), if_neg hzero, hparts]
  cases sum 0 ps with
  | error fault => rfl
  | ok total => cases h : ofNanoseconds? total <;> simp [h]

theorem ofNanoseconds?_of_le {n : Nat} (h : 2 ^ 64 * 1_000_000_000 ≤ n) : ofNanoseconds? n = none :=
  dif_neg (by omega)

theorem parse_of_isRead {s : List Char} {r : Except Fault Duration} (h : IsRead s r) :
    parse s = r := by
  cases h with
  | empty => rfl
  | zero => rfl
  | @sum _ ps ns d hzero hcut hne hgood hsum =>
      have hlimit : 0 + ns.sum < limit := by
        rw [Nat.zero_add, ← hsum]
        exact Nat.lt_trans d.bound bound_lt_limit
      rw [parse_eq hzero hcut hne, sum_of_forall_good hgood 0 hlimit, Nat.zero_add, ← hsum]
      simp [ofNanoseconds?_nanoseconds]
  | @fault _ before after p ns fault hzero hcut hgood hlimit hfault =>
      have hbefore := sum_of_forall_good hgood 0 (by rwa [Nat.zero_add, limit_eq])
      have hnumeric : ∀ c ∈ p.number, isNumeric c = true := by
        apply isNumeric_of_mem_parts s
        rw [isCut_iff.1 hcut]
        exact List.mem_append_right _ List.mem_cons_self
      rw [parse_eq hzero hcut (List.append_ne_nil_of_right_ne_nil _ (List.cons_ne_nil _ _)),
        sum_append hbefore, Nat.zero_add, hfault.sum hnumeric]
  | @tooLong _ ps ns hzero hcut hgood hlimit hrange =>
      have hne : ps ≠ [] := by
        rintro rfl
        cases hgood
        simp at hrange
      rw [parse_eq hzero hcut hne, sum_of_forall_good hgood 0 (by rwa [Nat.zero_add, limit_eq]),
        Nat.zero_add]
      simp [ofNanoseconds?_of_le hrange]

theorem exists_isRead (s : List Char) : ∃ r, IsRead s r := by
  by_cases hempty : s = []
  · subst hempty
    exact ⟨_, .empty⟩
  by_cases hzero : s = ['0']
  · subst hzero
    exact ⟨_, .zero⟩
  have hcut := isCut_parts s
  have hne : parts s ≠ [] := by
    intro hnil
    rw [hnil] at hcut
    cases hcut
    exact hempty rfl
  rcases says_or_isFault (isNumeric_of_mem_parts s) 0 (by decide) with
    ⟨ns, hgood, hlimit⟩ | ⟨before, p, after, ns, fault, hparts, hgood, hlimit, hfault⟩
  · rw [Nat.zero_add, limit_eq] at hlimit
    by_cases hrange : 2 ^ 64 * 1_000_000_000 ≤ ns.sum
    · exact ⟨_, .tooLong hzero hcut hgood hlimit hrange⟩
    · exact ⟨_, .sum (d := ⟨ns.sum, by omega⟩) hzero hcut hne hgood rfl⟩
  · rw [Nat.zero_add] at hlimit hfault
    exact ⟨_, .fault hzero (hparts ▸ hcut) hgood (limit_eq ▸ hlimit) hfault⟩

/-- Every text is cut in one way. It is read as what its parts say, or refused for the first bad one. -/
theorem ofText_eq_iff :
    (∀ s, ∃! ps, IsCut s ps) ∧
      ∀ (text : String) (r : Except Fault Duration),
        ofText text = r ↔ IsRead (trim text.toList) r := by
  refine ⟨fun s => ⟨parts s, isCut_parts s, fun ps h => (isCut_iff.1 h).symm⟩,
    fun text r => ⟨?_, parse_of_isRead⟩⟩
  -- Some result is allowed, and it is the only one.
  rintro rfl
  obtain ⟨r, hr⟩ := exists_isRead (trim text.toList)
  rwa [ofText, parse_of_isRead hr]

end AttributeSchema.Duration
