import AttributeSchema.Acceptance.Fixture
import AttributeSchema.Proofs.Text.Lines
/-!
# Annotations

A comment line gives a name a value. What is found for a name is the value in the first such line, so a
line that gives no value hides none behind it.
-/

namespace AttributeSchema.Fixture

open Text

/-- A comment line that gives a name a value: a number sign, the name with a colon, and the value, with
white space around each of the three. -/
def Annotates (name line value : List Char) : Prop :=
  value ≠ [] ∧ IsTight value ∧
    ∃ front gap left right, IsBlankText front ∧ IsBlankText gap ∧ IsBlankText left ∧
      IsBlankText right ∧ line = front ++ '#' :: gap ++ name ++ ':' :: left ++ value ++ right

/-! ## One line -/

theorem stripStart_eq_some_iff {word s rest : List Char} :
    stripStart word s = some rest ↔ s = word ++ rest := by
  induction word generalizing s with
  | nil => simp [stripStart]
  | cons c word ih =>
      cases s with
      | nil => simp [stripStart]
      | cons d s =>
          rw [stripStart]
          by_cases hc : c = d
          · subst hc
            rw [if_pos rfl, ih, List.cons_append, List.cons_inj_right]
          · rw [if_neg hc]
            simp [Ne.symm hc]

/-- What the reading of a line finds, step by step. -/
theorem lineValue?_eq_some_steps {name line value : List Char} :
    lineValue? name line = some value ↔
      ∃ comment rest, trim line = '#' :: comment ∧ trimStart comment = name ++ ':' :: rest ∧
        trim rest = value ∧ value ≠ [] := by
  unfold lineValue?
  simp only [Option.bind_eq_bind, Option.bind_eq_some_iff, stripStart_eq_some_iff,
    List.append_assoc, List.singleton_append]
  constructor
  · rintro ⟨comment, hcomment, rest, hrest, hvalue⟩
    by_cases hempty : trim rest = []
    · rw [hempty] at hvalue
      exact absurd hvalue (by simp)
    · rw [if_neg (by simpa using hempty)] at hvalue
      obtain rfl := Option.some.inj hvalue
      exact ⟨comment, rest, hcomment, hrest, rfl, hempty⟩
  · rintro ⟨comment, rest, hcomment, hrest, rfl, hne⟩
    refine ⟨comment, hcomment, rest, hrest, ?_⟩
    rw [if_neg (by simpa using hne)]

theorem annotates_of_lineValue? {name line value : List Char}
    (h : lineValue? name line = some value) : Annotates name line value := by
  obtain ⟨comment, rest, hline, hcomment, hrest, hne⟩ := lineValue?_eq_some_steps.1 h
  obtain ⟨-, front, back, hfront, hback, hline⟩ := trim_eq_iff.1 hline
  obtain ⟨-, gap, hgap, hcomment⟩ := trimStart_eq_iff.1 hcomment
  obtain ⟨htight, left, right, hleft, hright, hrest⟩ := trim_eq_iff.1 hrest
  refine ⟨hne, htight, front, gap, left, right ++ back, hfront, hgap, hleft, hright.append hback, ?_⟩
  rw [hline, hcomment, hrest]
  simp only [List.append_assoc, List.cons_append]

theorem lineValue?_of_annotates {name line value : List Char}
    (hname : name.head?.all (!isBlank ·) = true) (h : Annotates name line value) :
    lineValue? name line = some value := by
  obtain ⟨hne, htight, front, gap, left, right, hfront, hgap, hleft, hright, hline⟩ := h
  have htrimmed : trim line = '#' :: (gap ++ name ++ ':' :: left ++ value) := by
    apply trim_eq_iff.2
    refine ⟨⟨rfl, ?_⟩, front, right, hfront, hright, ?_⟩
    · -- The last character is that of the value.
      rw [← List.cons_append, List.getLast?_append, List.getLast?_eq_some_getLast hne, Option.some_or,
        ← List.getLast?_eq_some_getLast hne]
      exact htight.last
    · rw [hline]
      simp only [List.append_assoc, List.cons_append]
  have hcomment : trimStart (gap ++ name ++ ':' :: left ++ value) = name ++ ':' :: (left ++ value) := by
    apply trimStart_eq_iff.2
    refine ⟨?_, gap, hgap, by simp only [List.append_assoc, List.cons_append]⟩
    cases name with
    | nil => rfl
    | cons c name => exact hname
  have hrest : trim (left ++ value) = value := by
    apply trim_eq_iff.2
    exact ⟨htight, left, [], hleft, fun c hc => absurd hc List.not_mem_nil, (List.append_nil _).symm⟩
  exact lineValue?_eq_some_steps.2 ⟨_, _, htrimmed, hcomment, hrest, hne⟩

theorem lineValue?_eq_some_iff {name line value : List Char}
    (hname : name.head?.all (!isBlank ·) = true) :
    lineValue? name line = some value ↔ Annotates name line value :=
  ⟨annotates_of_lineValue?, lineValue?_of_annotates hname⟩

theorem lineValue?_eq_none_iff {name line : List Char}
    (hname : name.head?.all (!isBlank ·) = true) :
    lineValue? name line = none ↔ ∀ value, ¬ Annotates name line value := by
  simp only [Option.eq_none_iff_forall_ne_some, ne_eq, lineValue?_eq_some_iff hname]

/-! ## A configuration -/

theorem valueOf?_eq_some_iff {name config value : String} :
    valueOf? name config = some value ↔
      (lines config.toList).findSome? (lineValue? name.toList) = some value.toList := by
  rw [valueOf?, Option.map_eq_some_iff]
  constructor
  · rintro ⟨found, hfound, rfl⟩
    rw [String.toList_ofList, hfound]
  · intro hfound
    exact ⟨_, hfound, String.ofList_toList⟩

theorem valueOf?_eq_none_iff {name config : String} :
    valueOf? name config = none ↔ ∀ line ∈ lines config.toList, lineValue? name.toList line = none := by
  rw [valueOf?, Option.map_eq_none_iff, List.findSome?_eq_none_iff]

theorem annotates_written {name value : List Char} (hne : value ≠ []) (htight : IsTight value) :
    Annotates name ('#' :: ' ' :: name ++ ':' :: ' ' :: value) value := by
  refine ⟨hne, htight, [], [' '], [' '], [], ?_, ?_, ?_, ?_, by simp⟩
  · exact fun c hc => absurd hc List.not_mem_nil
  · exact List.forall_mem_singleton.2 (by decide)
  · exact List.forall_mem_singleton.2 (by decide)
  · exact fun c hc => absurd hc List.not_mem_nil

theorem isLines_written {value rest : List Char} {ls : List (List Char)} (hne : value ≠ [])
    (hfeed : '\n' ∉ value) (htight : IsTight value) (hrest : IsLines rest ls) :
    IsLines ("# Error: ".toList ++ value ++ '\n' :: rest) (("# Error: ".toList ++ value) :: ls) := by
  refine .feed ?_ ?_ hrest
  · rw [List.mem_append, not_or]
    exact ⟨by decide, hfeed⟩
  · -- The value does not end in white space, so not in a carriage return either.
    rw [List.getLast?_append, List.getLast?_eq_some_getLast hne, Option.some_or]
    intro hreturn
    have hlast := htight.last
    rw [List.getLast?_eq_some_getLast hne, hreturn] at hlast
    exact absurd hlast (by decide)

/-- What is found for a name is the value in the first line that gives it one, and nothing is found exactly
if no line does. So a pattern that is written behind lines without one is read back as it is. -/
theorem valueOf?_first_annotation :
    (∀ s, ∃! ls, IsLines s ls) ∧
    (∀ name : String, name.toList.head?.all (!isBlank ·) = true →
      ∀ (config : String) (ls : List (List Char)), IsLines config.toList ls →
        (∀ value : String, valueOf? name config = some value ↔
          ∃ before line after, ls = before ++ line :: after ∧
            Annotates name.toList line value.toList ∧
            ∀ earlier ∈ before, ∀ v, ¬ Annotates name.toList earlier v) ∧
        (valueOf? name config = none ↔ ∀ line ∈ ls, ∀ v, ¬ Annotates name.toList line v)) ∧
    ∀ (front pattern rest : String) (ls : List (List Char)), IsLines front.toList ls →
      front.toList.getLast?.all (· == '\n') = true →
      (∀ line ∈ ls, ∀ v, ¬ Annotates "Error".toList line v) →
      pattern ≠ "" → '\n' ∉ pattern.toList → IsTight pattern.toList →
      valueOf? "Error" (front ++ "# Error: " ++ pattern ++ "\n" ++ rest) = some pattern := by
  have hexact (name : String) (hname : name.toList.head?.all (!isBlank ·) = true) (config : String)
      (ls : List (List Char)) (hls : IsLines config.toList ls) (value : String) :
      valueOf? name config = some value ↔
        ∃ before line after, ls = before ++ line :: after ∧
          Annotates name.toList line value.toList ∧
          ∀ earlier ∈ before, ∀ v, ¬ Annotates name.toList earlier v := by
    rw [valueOf?_eq_some_iff, isLines_iff.1 hls, List.findSome?_eq_some_iff]
    simp only [lineValue?_eq_some_iff hname, lineValue?_eq_none_iff hname]
  refine ⟨fun s => ⟨lines s, isLines_lines s, fun ls h => (isLines_iff.1 h).symm⟩, ?_, ?_⟩
  · intro name hname config ls hls
    refine ⟨hexact name hname config ls hls, ?_⟩
    rw [valueOf?_eq_none_iff, isLines_iff.1 hls]
    simp only [lineValue?_eq_none_iff hname]
  · intro front pattern rest ls hls hend hnone hne hfeed htight
    have hpattern : pattern.toList ≠ [] := by
      intro hempty
      exact hne (String.toList_inj.1 hempty)
    have hcut := hls.append hend
      (isLines_written hpattern hfeed htight (isLines_lines rest.toList))
    have htext : (front ++ "# Error: " ++ pattern ++ "\n" ++ rest).toList =
        front.toList ++ ("# Error: ".toList ++ pattern.toList ++ '\n' :: rest.toList) := by
      simp only [String.toList_append, List.append_assoc]
      rfl
    rw [← htext] at hcut
    apply (hexact "Error" (by decide) _ _ hcut pattern).2
    have hwritten : Annotates "Error".toList ("# Error: ".toList ++ pattern.toList) pattern.toList :=
      annotates_written hpattern htight
    exact ⟨ls, _, lines rest.toList, rfl, hwritten, hnone⟩

/-- A line without a value stands in front, and another pattern behind. -/
theorem valueOf?_first_annotation_denied :
    valueOf? "Error" "kv\r\n\t#  Error:\tdenied \r\n# Error: other" = some "denied" ∧
      valueOf? "Error" ("# Error: \r\n" ++ "# Error: " ++ "bad key .*" ++ "\n" ++ "# Error: other") =
        some "bad key .*" := by
  obtain ⟨-, hfirst, hwritten⟩ := valueOf?_first_annotation
  have hnone {line : List Char} (h : lineValue? "Error".toList line = none) (v : List Char) :
      ¬ Annotates "Error".toList line v := (lineValue?_eq_none_iff (by decide)).1 h v
  constructor
  · apply ((hfirst "Error" (by decide) _ _ (isLines_lines _)).1 "denied").2
    refine ⟨["kv".toList], "\t#  Error:\tdenied ".toList, ["# Error: other".toList], by decide, ?_, ?_⟩
    · exact annotates_of_lineValue? (by decide)
    · exact List.forall_mem_singleton.2 (hnone (by decide))
  · apply hwritten "# Error: \r\n" "bad key .*" "# Error: other" _ (isLines_lines _) (by decide)
    · exact List.forall_mem_singleton.2 (hnone (by decide))
    · decide
    · decide
    · exact ⟨by decide, by decide⟩

end AttributeSchema.Fixture
