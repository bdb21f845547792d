import AttributeSchema.Acceptance.Script
import AttributeSchema.Proofs.Acceptance.Recording
/-!
# What recordings do

A recording asks three times for each fixture that it does not pass over. It writes the snapshots of these
fixtures and nothing else. Where a step fails, it asks for nothing more and writes nothing more, and what it
has saved by then is there.
-/

namespace AttributeSchema

open PathText (AreSiblings)

namespace Step

variable {σ : Type} {system : System σ} {w w' : World σ} {e : AcceptanceError} {fixtures : List Fixture}

/-! ## Requests -/

def recordingRequests (f : Fixture) : List (Action × String) :=
  if f.expected.isSome then []
  else [(.apply, f.config), (.destroy, f.config), (.apply, f.config)]

theorem map_request_recording (f : Fixture) : (recording f).map request = recordingRequests f := by
  rw [recording, recordingRequests]
  split
  · rfl
  · rfl

theorem map_request_recordings (fixtures : List Fixture) :
    (fixtures.flatMap recording).map request = fixtures.flatMap recordingRequests := by
  rw [List.map_flatMap]
  simp only [map_request_recording]

/-! ## Recordings that fail -/

/-- A recording that fails has recorded some fixtures, and fails at the next one. -/
theorem exists_failed_of_recordings
    (h : runAll system w (fixtures.flatMap recording) = (.error e, w')) :
    ∃ done f rest v, fixtures = done ++ f :: rest ∧
      runAll system w (done.flatMap recording) = (.ok (), v) ∧
      runAll system v (recording f) = (.error e, w') := by
  induction fixtures generalizing w with
  | nil => exact absurd (Prod.mk.inj h).1 (by simp)
  | cons f fixtures ih =>
      rw [List.flatMap_cons, runAll_append_error_iff] at h
      rcases h with h | ⟨u, hf, h⟩
      · exact ⟨[], f, fixtures, w, rfl, rfl, h⟩
      · obtain ⟨done, g, rest, v, rfl, hdone, hg⟩ := ih h
        refine ⟨f :: done, g, rest, v, rfl, ?_, hg⟩
        rw [List.flatMap_cons, runAll_append_ok_iff]
        exact ⟨u, hf, hdone⟩

theorem expected_of_recording_error {f : Fixture}
    (h : runAll system w (recording f) = (.error e, w')) : f.expected = none := by
  by_contra hexpected
  rw [recording, if_pos (Option.isSome_iff_ne_none.2 hexpected)] at h
  exact absurd (Prod.mk.inj h).1 (by simp)

/-- What has been saved stays when a fixture beside it is recorded, also if that fails. -/
theorem saved_of_recording (system : System σ) {f : Fixture} {shown : List (Option Observation)}
    (hsiblings : ∀ g ∈ fixtures, AreSiblings g.snapshotPath.toList f.snapshotPath.toList)
    (hsaved : List.Forall₂ (IsSaved w.files) fixtures shown) :
    List.Forall₂ (IsSaved (runAll system w (recording f)).2.files) fixtures shown := by
  have hwrites := onlyWrites_recordings system w [f]
  rw [List.flatMap_singleton] at hwrites
  have hread : ∀ g ∈ fixtures, (runAll system w (recording f)).2.files.read g.snapshotPath.toList =
      w.files.read g.snapshotPath.toList := by
    intro g hg
    refine hwrites.read_eq _ ?_
    intro path hpath
    obtain ⟨f', hf', -, rfl⟩ := mem_recordedPaths.1 hpath
    obtain rfl := List.mem_singleton.1 hf'
    exact (hsiblings g hg).symm
  refine ((List.forall₂_and_left _ _).2 ⟨hread, hsaved⟩).imp ?_
  rintro g o ⟨hg, ho⟩ o' ho'
  exact hg.trans (ho o' ho')

/-! ## Recordings -/

theorem shows_unique {s : σ} {shown shown' : List (Option Observation)}
    (h : Shows system s fixtures shown) (h' : Shows system s fixtures shown') : shown' = shown := by
  induction h generalizing shown' with
  | nil s =>
      cases h'
      rfl
  | skipped hexpected hmore ih =>
      cases h' with
      | skipped _ hmore' => rw [ih hmore']
      | recorded hnone =>
          rw [hnone] at hexpected
          exact absurd hexpected (by simp)
  | @recorded s s₁ s₂ s₃ f fixtures shown first o hexpected hfirst hdestroyed happlied hmore ih =>
      cases h' with
      | skipped hsome =>
          rw [hexpected] at hsome
          exact absurd hsome (by simp)
      | @recorded _ s₁' s₂' s₃' _ _ shown' first' o' _ hfirst' hdestroyed' happlied' hmore' =>
          obtain rfl := (Prod.mk.inj (hfirst.symm.trans hfirst')).2
          obtain ⟨hd, rfl⟩ := Prod.mk.inj (hdestroyed.symm.trans hdestroyed')
          obtain ⟨ha, rfl⟩ := Prod.mk.inj (happlied.symm.trans happlied')
          obtain ⟨destroyed, applied⟩ := o
          obtain ⟨destroyed', applied'⟩ := o'
          obtain rfl : destroyed = destroyed' := Except.ok.inj hd
          obtain rfl : applied = applied' := Except.ok.inj ha
          rw [ih hmore']

/-- The snapshots of discovered fixtures never collide. A recording that succeeds asks for three things for
each fixture that expects no error, saves the difference of the last two states, and writes nothing else;
another recording, among other files and after other first states, saves the same when the last two states
are the same. A recording that fails has recorded some fixtures, and stops at a step of the next one, which
writes nothing. A tree stays as trees are made, whether the recording succeeds or fails. -/
theorem recording_effects (files : ProperTree) {directory : String}
    (hdiscover : Fixture.discover files directory = .ok fixtures) (system : System σ) (w : World σ) :
    fixtures.Pairwise (fun f g => AreSiblings f.snapshotPath.toList g.snapshotPath.toList) ∧
    ∃ steps, plan w.files .record fixtures = .ok steps ∧
      (w.files.IsProper → (runAll system w steps).2.files.IsProper) ∧
      (∀ w', runAll system w steps = (.ok (), w') →
        runAll system.logged (w.withLog []) steps =
          (.ok (), w'.withLog (fixtures.flatMap recordingRequests)) ∧
        w.files.OnlyWrites (recordedPaths fixtures) w'.files ∧
        ∃ shown, Shows system w.system fixtures shown ∧
          List.Forall₂ (IsSaved w'.files) fixtures shown ∧
          ∀ {τ : Type} (other : System τ) (u u' : World τ), runAll other u steps = (.ok (), u') →
            Shows other u.system fixtures shown → List.Forall₂ (IsSaved u'.files) fixtures shown) ∧
      ∀ e w', runAll system w steps = (.error e, w') →
        ∃ done f rest before step after v, fixtures = done ++ f :: rest ∧ f.expected = none ∧
          recording f = before ++ step :: after ∧
          runAll system w (done.flatMap recording ++ before) = (.ok (), v) ∧
          step.run system v = (.error e, w') ∧ w'.files = v.files ∧
          runAll system.logged (w.withLog []) steps =
            (.error e,
              w'.withLog (done.flatMap recordingRequests ++ (before ++ [step]).map request)) ∧
          w.files.OnlyWrites (recordedPaths (done ++ [f])) w'.files ∧
          ∃ shown, Shows system w.system done shown ∧
            List.Forall₂ (IsSaved w'.files) done shown := by
  have hsiblings := Fixture.siblings_of_discover hdiscover
  refine ⟨hsiblings, _, plan_record w.files fixtures,
    fun hproper => isProper_runAll system hproper _, ?_, ?_⟩
  · intro w' hrun
    obtain ⟨shown, hshows, hsaved⟩ := recordings_saved hsiblings hrun
    have hlogged := runAll_logged_ok hrun []
    have hwrites := onlyWrites_recordings system w fixtures
    rw [List.nil_append, map_request_recordings] at hlogged
    rw [hrun] at hwrites
    refine ⟨hlogged, hwrites, shown, hshows, hsaved, ?_⟩
    intro τ other u u' hother hagain
    obtain ⟨shown', hshows', hsaved'⟩ := recordings_saved hsiblings hother
    obtain rfl := shows_unique hagain hshows'
    exact hsaved'
  · intro e w' hrun
    obtain ⟨done, f, rest, u, rfl, hdone, hf⟩ := exists_failed_of_recordings hrun
    obtain ⟨before, step, after, v, hsteps, hbefore, hstep⟩ := exists_failed_of_runAll hf
    have hfront : runAll system w (done.flatMap recording ++ before) = (.ok (), v) :=
      runAll_append_ok_iff.2 ⟨u, hdone, hbefore⟩
    refine ⟨done, f, rest, before, step, after, v, rfl, expected_of_recording_error hf, hsteps,
      hfront, hstep, files_of_run_error hstep, ?_, ?_, ?_⟩
    · have hall : (done ++ f :: rest).flatMap recording =
          done.flatMap recording ++ before ++ step :: (after ++ rest.flatMap recording) := by
        rw [List.flatMap_append, List.flatMap_cons, hsteps]
        simp only [List.append_assoc, List.cons_append]
      rw [hall, runAll_logged_error hfront hstep, List.nil_append, List.append_assoc, List.map_append,
        map_request_recordings]
    · have hlast : runAll system w ((done ++ [f]).flatMap recording) = (.error e, w') := by
        rw [List.flatMap_append, List.flatMap_singleton]
        exact runAll_append_error_iff.2 (.inr ⟨u, hdone, hf⟩)
      have hwrites := onlyWrites_recordings system w (done ++ [f])
      rw [hlast] at hwrites
      exact hwrites
    · obtain ⟨hdoneSiblings, -, hcross⟩ := List.pairwise_append.1 hsiblings
      obtain ⟨shown, hshows, hsaved⟩ := recordings_saved hdoneSiblings hdone
      have hkept := saved_of_recording system
        (fun g hg => hcross g hg f List.mem_cons_self) hsaved
      rw [hf] at hkept
      exact ⟨shown, hshows, hkept⟩

theorem recording_effects_token :
    (∃ w', runAll Script.system ⟨tokenFiles [], tokenScript "1" "1" "2"⟩
        (tokenFixtures.flatMap recording) = (.ok (), w') ∧
      runAll Script.system.logged (World.withLog ⟨tokenFiles [], tokenScript "1" "1" "2"⟩ [])
        (tokenFixtures.flatMap recording) =
          (.ok (), w'.withLog [(.apply, "token"), (.destroy, "token"), (.apply, "token")]) ∧
      w'.files.read "fixtures/a.json".toList = .ok (Text.Utf8.encode
        ("\x7b\n    \"token\": \x7b\n        \"id\": \"set()\",\n" ++
          "        \"kind\": \"t\"\n    \x7d\n\x7d").toList)) ∧
    ∃ w', runAll Script.system ⟨tokenFiles [], ⟨[.ok (tokenState "1"), .error "denied"], []⟩⟩
        (tokenFixtures.flatMap recording) = (.error (.system "denied"), w') ∧
      (tokenFiles []).OnlyWrites ["fixtures/a.json".toList] w'.files := by
  have hsome : (Pattern.ofText? "denied").isSome = true := by decide +kernel
  constructor
  · let w : World Script := ⟨tokenFiles [], tokenScript "1" "1" "2"⟩
    have hrun : runAll Script.system w (tokenFixtures.flatMap recording) =
        (.ok (), (runAll Script.system w (tokenFixtures.flatMap recording)).2) :=
      Prod.ext (by decide +kernel) rfl
    obtain ⟨-, steps, hplan, -, hok, -⟩ :=
      recording_effects tokenTree discover_tokenFiles Script.system w
    obtain rfl := Except.ok.inj ((plan_record w.files tokenFixtures).symm.trans hplan)
    obtain ⟨hlogged, -, shown, hshows, hsaved, -⟩ := hok _ hrun
    have hshown : Shows Script.system w.system tokenFixtures
        [some ⟨tokenState "1", tokenState "2"⟩, none] :=
      .recorded rfl rfl rfl rfl (.skipped hsome (.nil _))
    obtain rfl := shows_unique hshown hshows
    have hrequests : tokenFixtures.flatMap recordingRequests =
        [(.apply, "token"), (.destroy, "token"), (.apply, "token")] := by decide +kernel
    have htext : (Snapshot.diff (Snapshot.ofState (tokenState "1")) (tokenState "2")).text =
        "\x7b\n    \"token\": \x7b\n        \"id\": \"set()\",\n" ++
          "        \"kind\": \"t\"\n    \x7d\n\x7d" := by decide +kernel
    have hread := (List.forall₂_cons.1 hsaved).1 _ rfl
    rw [hrequests] at hlogged
    rw [htext] at hread
    exact ⟨_, hrun, hlogged, hread⟩
  · let w : World Script := ⟨tokenFiles [], ⟨[.ok (tokenState "1"), .error "denied"], []⟩⟩
    have hrun : runAll Script.system w (tokenFixtures.flatMap recording) =
        (.error (.system "denied"), (runAll Script.system w (tokenFixtures.flatMap recording)).2) :=
      Prod.ext (by decide +kernel) rfl
    obtain ⟨-, steps, hplan, -, -, herror⟩ :=
      recording_effects tokenTree discover_tokenFiles Script.system w
    obtain rfl := Except.ok.inj ((plan_record w.files tokenFixtures).symm.trans hplan)
    obtain ⟨done, f, rest, _, _, _, _, hfixtures, hnone, -, -, -, -, -, hwrites, -⟩ :=
      herror _ _ hrun
    -- The second fixture expects an error, so it is the first one that fails.
    cases done with
    | nil =>
        obtain ⟨rfl, -⟩ := List.cons.inj hfixtures
        exact ⟨_, hrun, hwrites⟩
    | cons g done =>
        obtain ⟨-, hfixtures⟩ := List.cons.inj hfixtures
        cases done with
        | nil =>
            obtain ⟨rfl, -⟩ := List.cons.inj hfixtures
            have hexpected : Pattern.ofText? "denied" = none := hnone
            rw [hexpected] at hsome
            exact absurd hsome (by decide)
        | cons g' done => exact absurd (List.cons.inj hfixtures).2 (by simp)

end Step

end AttributeSchema
