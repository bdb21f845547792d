import AttributeSchema.Proofs.Acceptance.Checks
/-!
# What stays in differences

A difference has the resources and attributes of the newer state. It keeps the values that the older
snapshot has too. So along a sequence of states an attribute keeps its value as long as every state has that
value, and an attribute whose value is not kept gets no value again.
-/

namespace AttributeSchema.Snapshot

variable {old : Snapshot} {state first : State} {later : List State} {resource name kept value : String}

/-! ## One difference -/

/-- What a difference has: the attributes of the state, with the values that the old snapshot has too. -/
structure IsDifference (old : Snapshot) (state : State) (s : Snapshot) : Prop where
  keys_eq : s.resources.keys = state.resources.keys
  get?_iff (resource name kept : String) : s.get? resource name = some kept ↔
    name ≠ countAttribute ∧ ∃ value, state.value? resource name = some value ∧
      (old.get? resource name = some value ∧ kept = value ∨
        old.get? resource name ≠ some value ∧ kept = presentOnly)

theorem keys_observe (state : State) (keep : String → String → String → String) :
    (observe state keep).resources.keys = state.resources.keys := by
  unfold SortedMap.keys
  change (state.resources.entries.map _).map _ = _
  rw [List.map_map]
  rfl

theorem isDifference_diff (old : Snapshot) (state : State) : IsDifference old state (diff old state) where
  keys_eq := keys_observe state _
  get?_iff resource name kept := by
    rw [diff, get?_observe]
    by_cases hname : name = countAttribute
    · simp [hname]
    · rw [if_neg hname, Option.map_eq_some_iff]
      refine ⟨fun ⟨value, hvalue, hkept⟩ => ⟨hname, value, hvalue, ?_⟩,
        fun ⟨_, value, hvalue, hkept⟩ => ⟨value, hvalue, ?_⟩⟩
      · subst hkept
        by_cases hold : old.get? resource name = some value
        · exact .inl ⟨hold, if_pos hold⟩
        · exact .inr ⟨hold, if_neg hold⟩
      · rcases hkept with ⟨hold, rfl⟩ | ⟨hold, rfl⟩
        · exact if_pos hold
        · exact if_neg hold

/-! ## The same state again -/

/-- What is kept of a state depends on what is kept of its values. -/
theorem observe_congr {keep keep' : String → String → String → String}
    (h : ∀ resource name value, name ≠ countAttribute → state.value? resource name = some value →
      keep resource name value = keep' resource name value) :
    observe state keep = observe state keep' := by
  unfold observe
  congr 1
  apply SortedMap.eq_of_get?
  intro resource
  rw [SortedMap.get?_map, SortedMap.get?_map]
  cases hresource : state.resources.get? resource with
  | none => rfl
  | some attributes =>
      rw [Option.map_some, Option.map_some, Option.some_inj]
      apply SortedMap.eq_of_get?
      intro name
      rw [SortedMap.get?_map, SortedMap.get?_map,
        SortedMap.get?_filter (fun name => name != countAttribute)]
      split
      · rename_i hname
        cases hvalue : attributes.get? name with
        | none => rfl
        | some value =>
            have hstate : state.value? resource name = some value := by
              rw [State.value?, hresource, Option.bind_some, hvalue]
            rw [Option.map_some, Option.map_some, h resource name value (bne_iff_ne.1 hname) hstate]
      · rfl

theorem diff_ofState (state : State) : diff (ofState state) state = ofState state := by
  apply observe_congr
  intro resource name value hname hvalue
  exact if_pos (get?_ofState.2 ⟨hname, hvalue⟩)

theorem diff_diff (old : Snapshot) (state : State) : diff (diff old state) state = diff old state := by
  apply observe_congr
  intro resource name value hname hvalue
  have hget := (isDifference_diff old state).get?_iff resource name
  by_cases hold : old.get? resource name = some value
  · have hkept : (diff old state).get? resource name = some value :=
      (hget value).2 ⟨hname, value, hvalue, .inl ⟨hold, rfl⟩⟩
    rw [if_pos hkept, if_pos hold]
  · have hmark : (diff old state).get? resource name = some presentOnly :=
      (hget presentOnly).2 ⟨hname, value, hvalue, .inr ⟨hold, rfl⟩⟩
    rw [hmark, if_neg hold]
    -- The mark is compared as a value: it stays, whether the value is spelled like it or not.
    split
    · rename_i heq
      exact (Option.some.inj heq).symm
    · rfl

/-! ## Sequences of states -/

/-- A value stays in a difference if the old snapshot and the state have it. -/
theorem get?_diff_of_ne (hkept : kept ≠ presentOnly) :
    (diff old state).get? resource name = some kept ↔
      old.get? resource name = some kept ∧ name ≠ countAttribute ∧
        state.value? resource name = some kept := by
  rw [(isDifference_diff old state).get?_iff]
  constructor
  · rintro ⟨hname, value, hvalue, ⟨hold, rfl⟩ | ⟨-, rfl⟩⟩
    · exact ⟨hold, hname, hvalue⟩
    · exact absurd rfl hkept
  · rintro ⟨hold, hname, hvalue⟩
    exact ⟨hname, kept, hvalue, .inl ⟨hold, rfl⟩⟩

theorem get?_foldl_diff_of_ne (hkept : kept ≠ presentOnly) :
    (later.foldl diff old).get? resource name = some kept ↔
      old.get? resource name = some kept ∧
        ∀ state ∈ later, name ≠ countAttribute ∧ state.value? resource name = some kept := by
  induction later generalizing old with
  | nil => simp
  | cons state later ih =>
      rw [List.foldl_cons, ih, get?_diff_of_ne hkept, List.forall_mem_cons, and_assoc]

theorem get?_foldl_diff_ofState (hkept : kept ≠ presentOnly) :
    (later.foldl diff (ofState first)).get? resource name = some kept ↔
      name ≠ countAttribute ∧ ∀ state ∈ first :: later, state.value? resource name = some kept := by
  rw [get?_foldl_diff_of_ne hkept, get?_ofState, List.forall_mem_cons]
  constructor
  · rintro ⟨⟨hname, hfirst⟩, hlater⟩
    exact ⟨hname, hfirst, fun state hstate => (hlater state hstate).2⟩
  · rintro ⟨hname, hfirst, hlater⟩
    exact ⟨⟨hname, hfirst⟩, fun state hstate => ⟨hname, hlater state hstate⟩⟩

/-- An attribute that has only the mark of its presence never has a value again. -/
theorem eq_presentOnly_of_foldl_diff (hold : old.get? resource name = some presentOnly)
    (h : (later.foldl diff old).get? resource name = some kept) : kept = presentOnly := by
  by_contra hkept
  have hexact := ((get?_foldl_diff_of_ne hkept).1 h).1
  rw [hold] at hexact
  exact hkept (Option.some.inj hexact).symm

/-- A difference has the attributes of the state, with their values where the old snapshot has them too. To
take it again changes nothing. Along states that follow each other a value is kept exactly if all of them
have it, and a mark stays a mark. -/
theorem diff_keeps_stable :
    (∀ (old : Snapshot) (state : State), IsDifference old state (diff old state)) ∧
    (∀ state : State, diff (ofState state) state = ofState state) ∧
    (∀ (old : Snapshot) (state : State), diff (diff old state) state = diff old state) ∧
    (∀ (first : State) (later : List State) (resource name value : String), value ≠ presentOnly →
      ((later.foldl diff (ofState first)).get? resource name = some value ↔
        name ≠ countAttribute ∧ ∀ state ∈ first :: later, state.value? resource name = some value)) ∧
    ∀ (old : Snapshot) (later : List State) (resource name kept : String),
      old.get? resource name = some presentOnly →
        (later.foldl diff old).get? resource name = some kept → kept = presentOnly :=
  ⟨isDifference_diff, diff_ofState, diff_diff, fun _ _ _ _ _ => get?_foldl_diff_ofState,
    fun _ _ _ _ _ => eq_presentOnly_of_foldl_diff⟩

def firstToken : State := .ofResources [("acl", [("%", "2"), ("id", "1"), ("kind", "t")])]

def otherToken : State := .ofResources [("acl", [("%", "2"), ("id", "2"), ("kind", "t")])]

/-- The identifier changes, is missing for a while and has its first value in the end. -/
def laterTokens : List State :=
  [otherToken, .ofResources [("acl", [("%", "1"), ("kind", "t")])], firstToken]

theorem diff_keeps_stable_returning :
    (laterTokens.foldl diff (ofState firstToken)).get? "acl" "kind" = some "t" ∧
      (laterTokens.foldl diff (ofState firstToken)).get? "acl" "id" = some presentOnly ∧
      ∀ kept, (laterTokens.foldl diff (ofState firstToken)).get? "acl" "id" = some kept →
        kept = presentOnly := by
  obtain ⟨-, -, -, hstable, hmark⟩ := diff_keeps_stable
  refine ⟨?_, by decide +kernel, ?_⟩
  · refine (hstable firstToken laterTokens "acl" "kind" "t" (by decide)).2 ⟨by decide, ?_⟩
    decide +kernel
  · intro kept
    exact hmark (diff (ofState firstToken) otherToken) laterTokens.tail "acl" "id" kept
      (by decide +kernel)

end AttributeSchema.Snapshot
