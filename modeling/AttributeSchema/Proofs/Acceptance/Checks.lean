import AttributeSchema.Proofs.Acceptance.Snapshot
/-!
# What the checks of a snapshot mean

A state passes the checks of a snapshot if it has what each entry keeps. If it does not, the error has one
line for each entry that it does not have, in the order of resources and names. So the checks of a state
that was kept as it was pass on the states that agree with it.
-/

namespace AttributeSchema

/-! ## Entries and states -/

/-- A state has what was kept of an attribute: some value where only that was kept, else the kept one. -/
def State.Meets (state : State) (resource name kept : String) : Prop :=
  if kept = Snapshot.presentOnly then ∃ value, state.value? resource name = some value ∧ value ≠ ""
  else state.value? resource name = some kept

inductive State.Misses (state : State) : String × String × String → String → Prop
  | unset {resource name : String} (h : ∀ value, state.value? resource name = some value → value = "") :
      Misses state (resource, name, Snapshot.presentOnly)
        (resource ++ "." ++ name ++ ": expected to be set")
  | other {resource name kept actual : String} (hkept : kept ≠ Snapshot.presentOnly)
      (h : state.value? resource name = some actual) (hne : actual ≠ kept) :
      Misses state (resource, name, kept)
        (resource ++ "." ++ name ++ ": expected '" ++ kept ++ "', got '" ++ actual ++ "'")
  | missing {resource name kept : String} (hkept : kept ≠ Snapshot.presentOnly)
      (h : state.value? resource name = none) :
      Misses state (resource, name, kept)
        (resource ++ "." ++ name ++ ": expected '" ++ kept ++ "', not set")

variable {state : State} {resource name kept text : String}

theorem State.meets_presentOnly :
    state.Meets resource name Snapshot.presentOnly ↔
      ∃ value, state.value? resource name = some value ∧ value ≠ "" := by
  rw [Meets, if_pos rfl]

theorem State.meets_of_ne (h : kept ≠ Snapshot.presentOnly) :
    state.Meets resource name kept ↔ state.value? resource name = some kept := by
  rw [Meets, if_neg h]

/-- A value meets itself, also one that stands for any other. -/
theorem State.meets_of_value? (h : state.value? resource name = some kept) :
    state.Meets resource name kept := by
  by_cases hkept : kept = Snapshot.presentOnly
  · subst hkept
    exact meets_presentOnly.2 ⟨_, h, by decide⟩
  · exact (meets_of_ne hkept).2 h

namespace Check

theorem ofEntry_presentOnly (resource name : String) :
    ofEntry (resource, name, Snapshot.presentOnly) = present resource name := by
  rw [ofEntry, if_pos rfl]

theorem ofEntry_of_ne (h : kept ≠ Snapshot.presentOnly) :
    ofEntry (resource, name, kept) = equals resource name kept := by
  rw [ofEntry, if_neg h]

theorem failure?_ofEntry_eq_none_iff :
    (ofEntry (resource, name, kept)).failure? state = none ↔ state.Meets resource name kept := by
  by_cases hkept : kept = Snapshot.presentOnly
  · subst hkept
    rw [ofEntry_presentOnly, failure?_present, State.meets_presentOnly]
  · rw [ofEntry_of_ne hkept, failure?_equals, State.meets_of_ne hkept]

/-- The line of a check says which entry the state does not have, and what it has in its place. -/
theorem misses_of_failure? {e : String × String × String} (h : (ofEntry e).failure? state = some text) :
    state.Misses e text := by
  obtain ⟨resource, name, kept⟩ := e
  by_cases hkept : kept = Snapshot.presentOnly
  · subst hkept
    rw [ofEntry_presentOnly, failure?] at h
    cases hvalue : state.value? resource name with
    | none =>
        rw [hvalue] at h
        obtain rfl := Option.some.inj h
        exact .unset (by simp [hvalue])
    | some value =>
        rw [hvalue] at h
        obtain ⟨hempty, h⟩ := Option.ite_none_right_eq_some.1 h
        obtain rfl := Option.some.inj h
        exact .unset (by simpa [hvalue] using hempty)
  · rw [ofEntry_of_ne hkept, failure?] at h
    cases hvalue : state.value? resource name with
    | none =>
        rw [hvalue] at h
        obtain rfl := Option.some.inj h
        exact .missing hkept hvalue
    | some actual =>
        rw [hvalue] at h
        obtain ⟨hne, h⟩ := Option.ite_none_left_eq_some.1 h
        obtain rfl := Option.some.inj h
        exact .other hkept hvalue hne

end Check

/-! ## Reports -/

/-- What a function gives for the elements for which it gives something, one after the other. -/
theorem forall₂_filterMap {α β : Type} (f : α → Option β) (xs : List α) :
    List.Forall₂ (fun x y => f x = some y) (xs.filter fun x => (f x).isSome) (xs.filterMap f) := by
  induction xs with
  | nil => exact .nil
  | cons x xs ih =>
      cases hx : f x with
      | none => simpa [hx] using ih
      | some y => simpa [hx] using ih

def Snapshot.Precedes (e e' : String × String × String) : Prop :=
  e.1 < e'.1 ∨ e.1 = e'.1 ∧ e.2.1 < e'.2.1

def Snapshot.Reports (s : Snapshot) (state : State) (failures : List String) : Prop :=
  ∃ unmet : List (String × String × String),
    unmet.Pairwise Precedes ∧
    (∀ resource name kept, (resource, name, kept) ∈ unmet ↔
      s.get? resource name = some kept ∧ ¬ state.Meets resource name kept) ∧
    List.Forall₂ state.Misses unmet failures

namespace Snapshot

variable {s : Snapshot}

theorem pairwise_entries (s : Snapshot) : s.entries.Pairwise Precedes := by
  rw [entries, List.pairwise_flatMap]
  constructor
  · rintro ⟨resource, attributes⟩ -
    rw [List.pairwise_map]
    exact attributes.sorted.imp fun hlt => .inr ⟨rfl, hlt⟩
  · refine s.resources.sorted.imp ?_
    rintro ⟨resource, attributes⟩ ⟨resource', attributes'⟩ hlt e he e' he'
    obtain ⟨_, -, rfl⟩ := List.mem_map.1 he
    obtain ⟨_, -, rfl⟩ := List.mem_map.1 he'
    exact .inl hlt

theorem reports_failures (s : Snapshot) (state : State) :
    s.Reports state (s.checks.filterMap (Check.failure? state)) := by
  refine ⟨s.entries.filter fun e => ((Check.ofEntry e).failure? state).isSome,
    s.pairwise_entries.filter _, ?_, ?_⟩
  · intro resource name kept
    rw [List.mem_filter, mem_entries_iff, ← Check.failure?_ofEntry_eq_none_iff, Option.isSome_iff_ne_none]
  · rw [checks, List.filterMap_map]
    exact (forall₂_filterMap (Check.failure? state ∘ Check.ofEntry) s.entries).imp
      fun _ _ => Check.misses_of_failure?

theorem verifyAll_checks_ok_iff :
    Check.verifyAll s.checks state = .ok () ↔
      ∀ resource name kept, s.get? resource name = some kept → state.Meets resource name kept :=
  verifyAll_checks_iff

theorem reports_of_verifyAll {e : AcceptanceError} (h : Check.verifyAll s.checks state = .error e) :
    ∃ failures, e = .checksFailed failures ∧ failures ≠ [] ∧ s.Reports state failures := by
  have hreports := s.reports_failures state
  unfold Check.verifyAll at h
  split at h
  · exact absurd h (by simp)
  · rename_i hne
    exact ⟨_, (Except.error.inj h).symm, hne, hreports⟩

theorem get?_ofState : (ofState state).get? resource name = some kept ↔
    name ≠ countAttribute ∧ state.value? resource name = some kept := by
  rw [ofState, get?_observe]
  by_cases hname : name = countAttribute
  · simp [hname]
  · simp [hname]

/-- The checks of a snapshot pass on the states that have all its entries, and else each entry that is not
there is reported once. The checks of a state that is kept as it is pass on that state, and on the states
that have its values. -/
theorem checks_verdict :
    (∀ (s : Snapshot) (state : State), Check.verifyAll s.checks state = .ok () ↔
      ∀ resource name kept, s.get? resource name = some kept → state.Meets resource name kept) ∧
    (∀ (s : Snapshot) (state : State) (e : AcceptanceError),
      Check.verifyAll s.checks state = .error e →
        ∃ failures, e = .checksFailed failures ∧ failures ≠ [] ∧ s.Reports state failures) ∧
    (∀ state : State, Check.verifyAll (ofState state).checks state = .ok ()) ∧
    ∀ state other : State, Check.verifyAll (ofState state).checks other = .ok () ↔
      ∀ resource name value, name ≠ countAttribute → state.value? resource name = some value →
        other.Meets resource name value := by
  have hstate (state other : State) : Check.verifyAll (ofState state).checks other = .ok () ↔
      ∀ resource name value, name ≠ countAttribute → state.value? resource name = some value →
        other.Meets resource name value := by
    simp only [verifyAll_checks_ok_iff, get?_ofState, and_imp]
  refine ⟨fun s state => verifyAll_checks_ok_iff, fun s state e => reports_of_verifyAll, ?_, hstate⟩
  intro state
  rw [hstate]
  intro resource name value _ hvalue
  exact State.meets_of_value? hvalue

/-- A value that is only marked, an empty one and two plain ones. -/
def mixedSnapshot : Snapshot where
  resources := .ofList
    [("acl", .ofList [("id", "set()"), ("note", "")]), ("kv", .ofList [("key", "a"), ("flags", "0")])]

def emptiedState : State := .ofResources [("acl", [("id", ""), ("note", "")]), ("kv", [("key", "b")])]

def emptiedFailures : List String :=
  ["acl.id: expected to be set", "kv.flags: expected '0', not set", "kv.key: expected 'a', got 'b'"]

def markedState : State := .ofResources [("acl", [("%", "1"), ("id", "set()")])]

theorem checks_verdict_mixed :
    Check.verifyAll mixedSnapshot.checks emptiedState = .error (.checksFailed emptiedFailures) ∧
      mixedSnapshot.Reports emptiedState emptiedFailures ∧
      Check.verifyAll (ofState emptiedState).checks emptiedState = .ok () ∧
      Check.verifyAll (ofState markedState).checks markedState = .ok () ∧
      markedState.Meets "acl" "id" "set()" ∧
      ¬ Check.verifyAll (ofState markedState).checks emptiedState = .ok () := by
  obtain ⟨-, hfailed, hsame, hother⟩ := checks_verdict
  have hresult : Check.verifyAll mixedSnapshot.checks emptiedState =
      .error (.checksFailed emptiedFailures) := by decide +kernel
  obtain ⟨failures, hfailures, -, hreports⟩ := hfailed _ _ _ hresult
  obtain rfl := AcceptanceError.checksFailed.inj hfailures
  have hmarked : markedState.Meets "acl" "id" "set()" :=
    (hother markedState markedState).1 (hsame _) "acl" "id" "set()" (by decide) (by decide +kernel)
  refine ⟨hresult, hreports, hsame _, hsame _, hmarked, ?_⟩
  intro h
  have hmeets := (hother markedState emptiedState).1 h "acl" "id" "set()" (by decide) (by decide +kernel)
  obtain ⟨value, hvalue, hne⟩ := State.meets_presentOnly.1 hmeets
  have hempty : emptiedState.value? "acl" "id" = some "" := by decide +kernel
  exact hne (Option.some.inj (hvalue.symm.trans hempty))

end Snapshot

end AttributeSchema
