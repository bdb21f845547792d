import AttributeSchema.Source.Layout
/-!
# Words stay whole

Whatever the lines are, each word of a document is written unbroken, and all of them in their order.
-/

namespace AttributeSchema.Source.Layout

mutual

def Doc.words : Doc → List String
  | .text s => [s]
  | .overflow => []
  | .brk _ => []
  | .box _ _ content => Doc.allWords content

def Doc.allWords : List Doc → List String
  | [] => []
  | d :: rest => d.words ++ Doc.allWords rest

end

/-- Words stand in a text, unbroken and in order, with anything around them. -/
inductive Woven : List String → List Char → Prop
  | nil (gap : List Char) : Woven [] gap
  | cons (gap : List Char) (s : String) {ws : List String} {rest : List Char} (h : Woven ws rest) :
      Woven (s :: ws) (gap ++ (s.toList ++ rest))

namespace Woven

variable {ws ws' : List String} {s s' : List Char}

theorem behind (h : Woven ws s) (gap : List Char) : Woven ws (gap ++ s) := by
  cases h with
  | nil => exact .nil _
  | cons gap' w h =>
      rw [← List.append_assoc]
      exact .cons (gap ++ gap') w h

theorem append (h : Woven ws s) (h' : Woven ws' s') : Woven (ws ++ ws') (s ++ s') := by
  induction h with
  | nil gap => exact h'.behind gap
  | cons gap w _ ih =>
      rw [List.cons_append, List.append_assoc, List.append_assoc]
      exact .cons gap w ih

/-- Some of the words stand there as well. -/
theorem sublist (h : Woven ws s) (hsub : ws'.Sublist ws) : Woven ws' s := by
  induction h generalizing ws' with
  | nil gap =>
      rw [List.sublist_nil.1 hsub]
      exact .nil gap
  | cons gap w h ih =>
      cases hsub with
      | cons _ hsub =>
          rw [← List.append_assoc]
          exact (ih hsub).behind _
      | cons_cons _ hsub => exact .cons gap w (ih hsub)

end Woven

/-- A page goes on with some words. -/
def Page.Adds (p : Page) (ws : List String) (q : Page) : Prop :=
  ∃ more, q.out.toList = p.out.toList ++ more ∧ Woven ws more

namespace Page.Adds

variable {p q r : Page} {ws ws' : List String}

theorem refl (p : Page) : p.Adds [] p := ⟨[], (List.append_nil _).symm, .nil []⟩

theorem trans (h : p.Adds ws q) (h' : q.Adds ws' r) : p.Adds (ws ++ ws') r := by
  obtain ⟨more, hmore, hws⟩ := h
  obtain ⟨more', hmore', hws'⟩ := h'
  refine ⟨more ++ more', ?_, hws.append hws'⟩
  rw [hmore', hmore, List.append_assoc]

theorem weaken (h : p.Adds ws q) : p.Adds [] q := by
  obtain ⟨more, hmore, hws⟩ := h
  exact ⟨more, hmore, hws.sublist (List.nil_sublist ws)⟩

theorem of_out {gap : List Char} (h : q.out.toList = p.out.toList ++ gap) : p.Adds [] q :=
  ⟨gap, h, .nil gap⟩

end Page.Adds

theorem Page.adds_flush (p : Page) : p.Adds [] p.flush :=
  .of_out String.toList_append

theorem Page.adds_write (p : Page) (s : String) : p.Adds [s] (p.write s) := by
  have hword : p.flush.Adds [s] (p.write s) :=
    ⟨s.toList, String.toList_append, by simpa using Woven.cons [] s (.nil [])⟩
  exact p.adds_flush.trans hword

theorem Page.adds_break (mode : Mode) (indent : Int) (size : Nat) (p : Page) (b : Break) :
    p.Adds [] (p.break mode indent size b) := by
  unfold Page.break
  split
  · cases b.joined with
    | none => exact .of_out (List.append_nil _).symm
    | some c => exact .of_out (String.toList_push c)
  · -- What stands before the end of the line, the end itself, and what opens the next one.
    have hend (q : Page) (space : Int) (pending : Nat) : q.Adds [] ⟨q.out.push '\n', space, pending⟩ :=
      .of_out (String.toList_push '\n')
    have hafter (q : Page) : q.Adds [] (if b.after.isEmpty then q else q.write b.after) := by
      split
      · exact .refl q
      · exact (q.adds_write b.after).weaken
    cases b.before with
    | none => exact (hend p _ _).trans (hafter _)
    | some c =>
        have hbefore : p.flush.Adds [] { p.flush with out := p.flush.out.push c } :=
          .of_out (String.toList_push c)
        exact ((p.adds_flush.trans hbefore).trans (hend _ _ _)).trans (hafter _)

mutual

/-- A document adds its words to a page. -/
theorem Doc.adds_lay (mode : Mode) (indent : Int) (behind : Nat) (p : Page) :
    ∀ d : Doc, p.Adds d.words (d.lay mode indent behind p)
  | .text s => p.adds_write s
  | .overflow => p.adds_flush
  | .brk b => p.adds_break mode indent _ b
  | .box offset isConsistent content => by
      rw [Doc.lay, Doc.words]
      split
      · exact Doc.adds_layAll _ _ _ p content
      · exact Doc.adds_layAll _ _ _ p content

theorem Doc.adds_layAll (mode : Mode) (indent : Int) (behind : Nat) (p : Page) :
    ∀ docs : List Doc, p.Adds (Doc.allWords docs) (Doc.layAll mode indent behind p docs)
  | [] => .refl p
  | d :: rest => by
      rw [Doc.layAll, Doc.allWords]
      exact (Doc.adds_lay mode indent _ p d).trans (Doc.adds_layAll mode indent behind _ rest)

end

theorem woven_render (docs : List Doc) : Woven (Doc.allWords docs) (render docs).toList := by
  obtain ⟨more, hmore, hwoven⟩ := Doc.adds_layAll (.broken false) 0 0 ⟨"", margin, 0⟩ docs
  rw [render, hmore]
  exact hwoven

/-! ## Words of documents in a row -/

theorem allWords_append (a b : List Doc) : Doc.allWords (a ++ b) = Doc.allWords a ++ Doc.allWords b := by
  induction a with
  | nil => rfl
  | cons d a ih => rw [List.cons_append, Doc.allWords, Doc.allWords, ih, List.append_assoc]

theorem allWords_flatMap {α : Type} (f : α → List Doc) (xs : List α) :
    Doc.allWords (xs.flatMap f) = xs.flatMap fun x => Doc.allWords (f x) := by
  induction xs with
  | nil => rfl
  | cons x xs ih => rw [List.flatMap_cons, List.flatMap_cons, allWords_append, ih]

theorem allWords_outdentLast (docs : List Doc) : Doc.allWords (outdentLast docs) = Doc.allWords docs := by
  unfold outdentLast
  split
  · rename_i b hlast
    obtain ⟨front, rfl⟩ := List.getLast?_eq_some_iff.1 hlast
    rw [List.dropLast_concat, allWords_append, allWords_append]
    rfl
  · rfl

theorem sublist_separated (last : Doc) (items : List (List Doc)) :
    (items.flatMap Doc.allWords).Sublist (Doc.allWords (separated last items)) := by
  induction items with
  | nil => exact List.Sublist.refl _
  | cons item items ih =>
      cases items with
      | nil =>
          rw [separated, allWords_append, List.flatMap_cons]
          exact List.Sublist.append_left (List.nil_sublist _) _
      | cons item' items =>
          rw [separated, allWords_append, List.flatMap_cons]
          · exact List.Sublist.append_left (ih.trans (List.sublist_cons_self _ _)) _
          · simp

theorem sublist_commaSeparated (items : List (List Doc)) :
    (items.flatMap Doc.allWords).Sublist (Doc.allWords (commaSeparated items)) := by
  induction items with
  | nil => exact List.Sublist.refl _
  | cons item items ih =>
      cases items with
      | nil =>
          rw [commaSeparated, List.flatMap_cons]
          simp
      | cons item' items =>
          rw [commaSeparated, allWords_append, List.flatMap_cons]
          · exact List.Sublist.append_left (ih.trans (List.sublist_cons_self _ _)) _
          · simp

theorem sublist_enclosed (opening closing : String) (items : List (List Doc)) :
    (items.flatMap Doc.allWords).Sublist (Doc.allWords (enclosed opening closing items)) := by
  cases items with
  | nil => exact List.nil_sublist _
  | cons item items =>
      have hinside : ((item :: items).flatMap Doc.allWords).Sublist
          (Doc.allWords (outdentLast (zero :: separated (lastComma 0 0) (item :: items)))) := by
        rw [allWords_outdentLast]
        exact sublist_separated _ _
      have hbox : Doc.allWords (enclosed opening closing (item :: items)) =
          opening :: (Doc.allWords (outdentLast (zero :: separated (lastComma 0 0) (item :: items))) ++
            [closing]) := rfl
      rw [hbox]
      exact (hinside.trans (List.sublist_append_left _ _)).trans (List.sublist_cons_self _ _)

end AttributeSchema.Source.Layout
