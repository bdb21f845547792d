import AttributeSchema.Proofs.Text.Blank
/-!
# Lines

What the lines of a text are, said without the function that finds them.
-/

namespace AttributeSchema.Text

/-- A text cut into its lines. A line ends at a line feed, and a carriage return before the line feed
belongs to the end of the line. Only the last line may lack its end, and then it is not empty. -/
inductive IsLines : List Char → List (List Char) → Prop
  | nil : IsLines [] []
  | last {line : List Char} (hne : line ≠ []) (hline : '\n' ∉ line) : IsLines line [line]
  | feed {line rest : List Char} {lines : List (List Char)} (hline : '\n' ∉ line)
      (hreturn : line.getLast? ≠ some '\r') (hrest : IsLines rest lines) :
      IsLines (line ++ '\n' :: rest) (line :: lines)
  | returnFeed {line rest : List Char} {lines : List (List Char)} (hline : '\n' ∉ line)
      (hrest : IsLines rest lines) : IsLines (line ++ '\r' :: '\n' :: rest) (line :: lines)

def consLine (c : Char) : List (List Char) → List (List Char)
  | [] => [[c]]
  | line :: more => (c :: line) :: more

theorem lines_cons {c : Char} {s : List Char} (hfeed : c ≠ '\n')
    (hpair : ∀ rest, c = '\r' → s ≠ '\n' :: rest) : lines (c :: s) = consLine c (lines s) := by
  rw [lines.eq_4 c s hpair hfeed]
  cases lines s with
  | nil => rfl
  | cons line more => rfl

theorem IsLines.cons {c : Char} {s : List Char} {ls : List (List Char)} (h : IsLines s ls)
    (hfeed : c ≠ '\n') (hpair : ∀ rest, c = '\r' → s ≠ '\n' :: rest) :
    IsLines (c :: s) (consLine c ls) := by
  have hmem {line : List Char} (hline : '\n' ∉ line) : '\n' ∉ c :: line := by
    rw [List.mem_cons, not_or]
    exact ⟨hfeed.symm, hline⟩
  cases h with
  | nil => exact .last (List.cons_ne_nil _ _) (hmem List.not_mem_nil)
  | last hne hline => exact .last (List.cons_ne_nil _ _) (hmem hline)
  | @feed line rest lines hline hreturn hrest =>
      refine .feed (hmem hline) ?_ hrest
      cases line with
      | nil =>
          intro hcr
          exact hpair rest (by simpa using hcr) rfl
      | cons d line =>
          rw [List.getLast?_cons_cons]
          exact hreturn
  | returnFeed hline hrest => exact .returnFeed (hmem hline) hrest

theorem isLines_lines (s : List Char) : IsLines s (lines s) := by
  induction s using lines.induct with
  | case1 =>
      rw [lines]
      exact .nil
  | case2 rest ih =>
      rw [lines]
      have hline : '\n' ∉ ([] : List Char) := List.not_mem_nil
      exact .returnFeed hline ih
  | case3 rest ih =>
      rw [lines]
      have hline : '\n' ∉ ([] : List Char) := List.not_mem_nil
      exact .feed hline (by simp) ih
  | case4 c rest hpair hfeed _ ih =>
      rw [lines_cons hfeed hpair]
      exact ih.cons hfeed hpair
  | case5 c rest hpair hfeed _ _ _ ih =>
      rw [lines_cons hfeed hpair]
      exact ih.cons hfeed hpair

/-- A text that holds no line feed is put in front of the first line, unless it ends in the carriage
return of that line. -/
theorem lines_append {line s : List Char} (hline : '\n' ∉ line)
    (hreturn : line.getLast? = some '\r' → s.head? ≠ some '\n') :
    lines (line ++ s) = line.foldr consLine (lines s) := by
  induction line with
  | nil => rfl
  | cons c line ih =>
      rw [List.mem_cons, not_or] at hline
      have htail : line.getLast? = some '\r' → s.head? ≠ some '\n' := by
        intro hlast
        apply hreturn
        cases line with
        | nil => exact absurd hlast (by simp)
        | cons d line => rw [List.getLast?_cons_cons, hlast]
      have hpair : ∀ rest, c = '\r' → line ++ s ≠ '\n' :: rest := by
        rintro rest rfl hrest
        cases line with
        | nil =>
            rw [List.nil_append] at hrest
            exact hreturn rfl (by rw [hrest]; rfl)
        | cons d line =>
            rw [List.cons_append] at hrest
            exact hline.2 (by rw [(List.cons.inj hrest).1]; exact List.mem_cons_self)
      rw [List.cons_append, lines_cons (Ne.symm hline.1) hpair, ih hline.2 htail, List.foldr_cons]

theorem foldr_consLine (line front : List Char) (more : List (List Char)) :
    line.foldr consLine (front :: more) = (line ++ front) :: more := by
  induction line with
  | nil => rfl
  | cons c line ih =>
      rw [List.foldr_cons, ih]
      rfl

theorem foldr_consLine_nil {line : List Char} (hne : line ≠ []) :
    line.foldr consLine [] = [line] := by
  induction line with
  | nil => exact absurd rfl hne
  | cons c line ih =>
      cases line with
      | nil => rfl
      | cons d line =>
          rw [List.foldr_cons, ih (List.cons_ne_nil _ _)]
          rfl

/-- Each text is cut into lines in one way. -/
theorem isLines_iff {s : List Char} {ls : List (List Char)} : IsLines s ls ↔ lines s = ls := by
  constructor
  · intro h
    induction h with
    | nil => rw [lines]
    | @last line hne hline =>
        have happend := lines_append (s := []) hline (fun _ => by simp)
        rwa [List.append_nil, lines, foldr_consLine_nil hne] at happend
    | @feed line rest ls hline hreturn _ ih =>
        rw [lines_append hline (fun hlast => absurd hlast hreturn), lines, ih, foldr_consLine,
          List.append_nil]
    | @returnFeed line rest ls hline _ ih =>
        rw [lines_append hline (fun _ => by simp), lines, ih, foldr_consLine, List.append_nil]
  · rintro rfl
    exact isLines_lines s

theorem all_getLast?_of_append {p : Char → Bool} {front : List Char} {c : Char} {back : List Char}
    (h : (front ++ c :: back).getLast?.all p = true) : back.getLast?.all p = true := by
  cases back with
  | nil => rfl
  | cons d back =>
      rw [List.getLast?_append, List.getLast?_cons_cons, List.getLast?_cons, Option.some_or] at h
      rwa [List.getLast?_cons]

/-- The lines of a text that ends with a line are those in front of the lines behind it. -/
theorem IsLines.append {s t : List Char} {ls ms : List (List Char)} (hs : IsLines s ls)
    (hend : s.getLast?.all (· == '\n') = true) (ht : IsLines t ms) : IsLines (s ++ t) (ls ++ ms) := by
  induction hs with
  | nil => exact ht
  | @last line hne hline =>
      exfalso
      rw [List.getLast?_eq_some_getLast hne] at hend
      have hfeed : line.getLast hne = '\n' := by simpa using hend
      exact hline (hfeed ▸ List.getLast_mem hne)
  | feed hline hreturn _ ih =>
      rw [List.append_assoc, List.cons_append]
      exact .feed hline hreturn (ih (all_getLast?_of_append hend))
  | @returnFeed line rest ls hline _ ih =>
      rw [List.append_assoc, List.cons_append, List.cons_append]
      have hrest : (line ++ ['\r'] ++ '\n' :: rest).getLast?.all (· == '\n') = true := by
        rwa [List.append_assoc]
      exact .returnFeed hline (ih (all_getLast?_of_append hrest))

end AttributeSchema.Text
