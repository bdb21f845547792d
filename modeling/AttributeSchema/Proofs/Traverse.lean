import Mathlib.Data.List.Perm.Basic
/-!
# Steps that may fail, one after the other

What is known about the steps of a sequence that succeeded, and about the first one that did not.
-/

namespace AttributeSchema

variable {ε α β : Type}

/-! ## Two steps -/

theorem bind_ok_iff {x : Except ε α} {f : α → Except ε β} {b : β} :
    x >>= f = .ok b ↔ ∃ a, x = .ok a ∧ f a = .ok b := by
  cases x with
  | error e => simp [bind, Except.bind]
  | ok a => simp [bind, Except.bind]

theorem bind_error_iff {x : Except ε α} {f : α → Except ε β} {e : ε} :
    x >>= f = .error e ↔ x = .error e ∨ ∃ a, x = .ok a ∧ f a = .error e := by
  cases x with
  | error e => simp [bind, Except.bind]
  | ok a => simp [bind, Except.bind]

theorem map_ok_iff {x : Except ε α} {f : α → β} {b : β} :
    x.map f = .ok b ↔ ∃ a, x = .ok a ∧ f a = b := by
  cases x with
  | error e => simp [Except.map]
  | ok a => simp [Except.map]

theorem exists_map_ok_iff {x : Except ε α} {f : α → β} :
    (∃ b, x.map f = .ok b) ↔ ∃ a, x = .ok a := by
  cases x with
  | error e => simp [Except.map]
  | ok a => simp [Except.map]

theorem map_error_iff {x : Except ε α} {f : α → β} {e : ε} :
    x.map f = .error e ↔ x = .error e := by
  cases x with
  | error e => simp [Except.map]
  | ok a => simp [Except.map]

theorem exists_of_isOk {x : Except ε α} (h : x.isOk = true) : ∃ a, x = .ok a := by
  cases x with
  | error e => exact absurd h (by simp [Except.isOk, Except.toBool])
  | ok a => exact ⟨a, rfl⟩

/-! ## Lists of steps -/

/-- A traversal that succeeds gives the results of its steps in order. -/
theorem mapM_ok_iff {f : α → Except ε β} {xs : List α} {ys : List β} :
    xs.mapM f = .ok ys ↔ List.Forall₂ (fun x y => f x = .ok y) xs ys := by
  induction xs generalizing ys with
  | nil =>
      rw [List.mapM_nil, List.forall₂_nil_left_iff]
      constructor
      · intro h
        exact (Except.ok.inj h).symm
      · rintro rfl
        rfl
  | cons x xs ih =>
      rw [List.mapM_cons, bind_ok_iff, List.forall₂_cons_left_iff]
      constructor
      · rintro ⟨y, hy, h⟩
        obtain ⟨more, hmore, h⟩ := bind_ok_iff.1 h
        exact ⟨y, more, hy, ih.1 hmore, (Except.ok.inj h).symm⟩
      · rintro ⟨y, more, hy, hmore, rfl⟩
        exact ⟨y, hy, bind_ok_iff.2 ⟨more, ih.2 hmore, rfl⟩⟩

/-- A traversal succeeds exactly if each of its steps does. -/
theorem exists_mapM_ok_iff {f : α → Except ε β} {xs : List α} :
    (∃ ys, xs.mapM f = .ok ys) ↔ ∀ x ∈ xs, ∃ y, f x = .ok y := by
  simp only [mapM_ok_iff]
  induction xs with
  | nil => simp
  | cons x xs ih =>
      rw [List.forall_mem_cons, ← ih]
      constructor
      · rintro ⟨ys, hys⟩
        obtain ⟨y, more, hy, hmore, -⟩ := List.forall₂_cons_left_iff.1 hys
        exact ⟨⟨y, hy⟩, more, hmore⟩
      · rintro ⟨⟨y, hy⟩, more, hmore⟩
        exact ⟨y :: more, .cons hy hmore⟩

theorem length_of_mapM_ok {f : α → Except ε β} {xs : List α} {ys : List β}
    (h : xs.mapM f = .ok ys) : ys.length = xs.length :=
  (mapM_ok_iff.1 h).length_eq.symm

theorem getElem?_of_mapM_ok {f : α → Except ε β} {xs : List α} {ys : List β}
    (h : xs.mapM f = .ok ys) {i : Nat} {x : α} (hx : xs[i]? = some x) :
    ∃ y, ys[i]? = some y ∧ f x = .ok y := by
  have hsteps := mapM_ok_iff.1 h
  clear h
  induction hsteps generalizing i with
  | nil => exact absurd hx (by simp)
  | cons hstep hmore ih =>
      cases i with
      | zero =>
          obtain rfl : _ = x := Option.some.inj hx
          exact ⟨_, rfl, hstep⟩
      | succ i => exact ih hx

/-- A traversal whose steps do what a function does is a map of that function. -/
theorem eq_map_of_mapM_ok {f : α → Except ε β} {g : α → β} {xs : List α} {ys : List β}
    (hsteps : ∀ x ∈ xs, ∀ y, f x = .ok y → y = g x) (h : xs.mapM f = .ok ys) : ys = xs.map g := by
  have hresults := mapM_ok_iff.1 h
  clear h
  induction hresults with
  | nil => rfl
  | cons hstep hmore ih =>
      have hmore := ih fun x hx => hsteps x (List.mem_cons_of_mem _ hx)
      rw [List.map_cons, ← hsteps _ List.mem_cons_self _ hstep, hmore]

/-- What all steps of a traversal keep is the same before and after it. -/
theorem map_eq_map_of_mapM_ok {γ : Type} {f : α → Except ε β} {before : α → γ} {after : β → γ}
    {xs : List α} {ys : List β} (hsteps : ∀ x y, f x = .ok y → after y = before x)
    (h : xs.mapM f = .ok ys) : ys.map after = xs.map before := by
  have hresults := mapM_ok_iff.1 h
  clear h
  induction hresults with
  | nil => rfl
  | cons hstep hmore ih => rw [List.map_cons, List.map_cons, hsteps _ _ hstep, ih]

/-- Every result of a traversal comes from one of its steps. -/
theorem exists_of_mem_mapM_ok {f : α → Except ε β} {xs : List α} {ys : List β}
    (h : xs.mapM f = .ok ys) {y : β} (hy : y ∈ ys) : ∃ x ∈ xs, f x = .ok y := by
  have hsteps := mapM_ok_iff.1 h
  clear h
  induction hsteps with
  | nil => exact absurd hy List.not_mem_nil
  | cons hstep hmore ih =>
      rcases List.mem_cons.1 hy with rfl | hy
      · exact ⟨_, List.mem_cons_self, hstep⟩
      · obtain ⟨x, hx, hstep⟩ := ih hy
        exact ⟨x, List.mem_cons_of_mem _ hx, hstep⟩

/-- Traversals give the same if their steps do, one by one. -/
theorem mapM_eq_of_forall₂ {γ : Type} {f : α → Except ε γ} {g : β → Except ε γ} {xs : List α}
    {ys : List β} (h : List.Forall₂ (fun x y => f x = g y) xs ys) : xs.mapM f = ys.mapM g := by
  induction h with
  | nil => rfl
  | cons hstep hmore ih => rw [List.mapM_cons, List.mapM_cons, hstep, ih]

/-- Traversals of the same elements give the same results, in whatever order. -/
theorem perm_of_mapM_ok {f : α → Except ε β} {xs xs' : List α} {ys ys' : List β}
    (h : xs.Perm xs') (hys : xs.mapM f = .ok ys) (hys' : xs'.mapM f = .ok ys') : ys.Perm ys' := by
  refine List.rel_perm_imp ?_ (mapM_ok_iff.1 hys) (mapM_ok_iff.1 hys') h
  intro x y z hy hz
  exact Except.ok.inj (hy.symm.trans hz)

/-- A traversal fails in the first step that does. -/
theorem mapM_error_iff {f : α → Except ε β} {xs : List α} {e : ε} :
    xs.mapM f = .error e ↔
      ∃ before x after, xs = before ++ x :: after ∧ (∀ b ∈ before, ∃ y, f b = .ok y) ∧
        f x = .error e := by
  induction xs with
  | nil => simp [pure, Except.pure]
  | cons x xs ih =>
      rw [List.mapM_cons, bind_error_iff]
      constructor
      · rintro (h | ⟨y, hy, h⟩)
        · exact ⟨[], x, xs, rfl, fun b hb => absurd hb List.not_mem_nil, h⟩
        · rcases bind_error_iff.1 h with h | ⟨more, -, h⟩
          · obtain ⟨before, z, after, rfl, hbefore, hz⟩ := ih.1 h
            exact ⟨x :: before, z, after, rfl, List.forall_mem_cons.2 ⟨⟨y, hy⟩, hbefore⟩, hz⟩
          · exact absurd h (by simp [pure, Except.pure])
      · rintro ⟨before, z, after, heq, hbefore, hz⟩
        cases before with
        | nil =>
            obtain ⟨rfl, rfl⟩ := List.cons.inj heq
            exact .inl hz
        | cons b before =>
            obtain ⟨rfl, rfl⟩ := List.cons.inj heq
            obtain ⟨⟨y, hy⟩, hbefore⟩ := List.forall_mem_cons.1 hbefore
            exact .inr ⟨y, hy, bind_error_iff.2 (.inl (ih.2 ⟨before, z, after, rfl, hbefore, hz⟩))⟩

theorem exists_of_mapM_error {f : α → Except ε β} {xs : List α} {e : ε}
    (h : xs.mapM f = .error e) : ∃ x ∈ xs, f x = .error e := by
  obtain ⟨before, x, after, rfl, -, hx⟩ := mapM_error_iff.1 h
  exact ⟨x, List.mem_append_right _ List.mem_cons_self, hx⟩

end AttributeSchema
