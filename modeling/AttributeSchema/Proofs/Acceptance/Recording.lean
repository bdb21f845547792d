import AttributeSchema.Acceptance.Script
import AttributeSchema.Proofs.Acceptance.Fixture
import AttributeSchema.Proofs.Acceptance.Replay
import Mathlib.Data.List.Pairwise
/-!
# Recordings replay

A recording leaves for each fixture what did not change between its destruction and its last application.
Its replay against a system that shows the last states again succeeds, except where an attribute became
empty on the last application: it is marked as present, and then it is not.
-/

namespace AttributeSchema

open PathText (AreSiblings)

/-! ## What a system shows -/

/-- The states of a recorded fixture that are kept: when it was destroyed, and when it was applied for the
last time. -/
structure Observation where
  destroyed : State
  applied : State

/-- What a system shows while fixtures are recorded one after the other. A fixture that expects an error is
passed over. -/
inductive Shows {σ : Type} (system : System σ) : σ → List Fixture → List (Option Observation) → Prop
  | nil (s : σ) : Shows system s [] []
  | skipped {s : σ} {f : Fixture} {fixtures : List Fixture} {shown : List (Option Observation)}
      (hexpected : f.expected.isSome = true) (hmore : Shows system s fixtures shown) :
      Shows system s (f :: fixtures) (none :: shown)
  | recorded {s s₁ s₂ s₃ : σ} {f : Fixture} {fixtures : List Fixture}
      {shown : List (Option Observation)} {first : State} {o : Observation}
      (hexpected : f.expected = none)
      (hfirst : system.perform .apply f.config s = (.ok first, s₁))
      (hdestroyed : system.perform .destroy f.config s₁ = (.ok o.destroyed, s₂))
      (happlied : system.perform .apply f.config s₂ = (.ok o.applied, s₃))
      (hmore : Shows system s₃ fixtures shown) :
      Shows system s (f :: fixtures) (some o :: shown)

/-- A system that shows again, when fixtures are applied one after the other, the last states that were
observed, and that fails as the other fixtures expect. -/
inductive ShowsAgain {σ : Type} (system : System σ) :
    σ → List Fixture → List (Option Observation) → Prop
  | nil (s : σ) : ShowsAgain system s [] []
  | failed {s s' : σ} {f : Fixture} {fixtures : List Fixture} {shown : List (Option Observation)}
      {pattern : Pattern} {message : String} (hexpected : f.expected = some pattern)
      (hanswer : system.perform .apply f.config s = (.error message, s'))
      (hmatch : pattern.matchesIn message = true) (hmore : ShowsAgain system s' fixtures shown) :
      ShowsAgain system s (f :: fixtures) (none :: shown)
  | applied {s s' : σ} {f : Fixture} {fixtures : List Fixture} {shown : List (Option Observation)}
      {o : Observation} (hexpected : f.expected = none)
      (hanswer : system.perform .apply f.config s = (.ok o.applied, s'))
      (hmore : ShowsAgain system s' fixtures shown) :
      ShowsAgain system s (f :: fixtures) (some o :: shown)

namespace Step

/-! ## Recording -/

section

variable {σ : Type} {system : System σ} {w w' : World σ}

/-- What a recording leaves on disk for a fixture that is not passed over: the text of a difference, whatever
stood there and whatever was shown at first. -/
def IsSaved (files : FileTree) (f : Fixture) (o : Option Observation) : Prop :=
  ∀ o' ∈ o, files.read f.snapshotPath.toList =
    .ok (Text.Utf8.encode (Snapshot.diff (Snapshot.ofState o'.destroyed) o'.applied).text.toList)

/-- What the three steps of one fixture leave at its own path. The last step reads what the second one has
written. -/
theorem recording_ok {f : Fixture} (hexpected : f.expected = none)
    (h : runAll system w (recording f) = (.ok (), w')) :
    ∃ (first : State) (o : Observation) (s₁ s₂ : σ),
      system.perform .apply f.config w.system = (.ok first, s₁) ∧
      system.perform .destroy f.config s₁ = (.ok o.destroyed, s₂) ∧
      system.perform .apply f.config s₂ = (.ok o.applied, w'.system) ∧
      IsSaved w'.files f (some o) := by
  rw [recording, hexpected] at h
  obtain ⟨w₁, hstep₁, h⟩ := runAll_cons_ok_iff.1 h
  obtain ⟨w₂, hstep₂, h⟩ := runAll_cons_ok_iff.1 h
  obtain ⟨w₃, hstep₃, h⟩ := runAll_cons_ok_iff.1 h
  obtain rfl := (Prod.mk.inj h).2
  obtain ⟨answer₁, s₁, files₁, hfirst, hsettle₁, rfl⟩ := run_ok_iff.1 hstep₁
  obtain ⟨first, rfl, -⟩ := settle_record_ok hsettle₁
  obtain ⟨answer₂, s₂, files₂, hdestroyed, hsettle₂, rfl⟩ := run_ok_iff.1 hstep₂
  obtain ⟨destroyed, rfl, hsave₂⟩ := settle_record_ok hsettle₂
  obtain ⟨answer₃, s₃, files₃, happlied, hsettle₃, rfl⟩ := run_ok_iff.1 hstep₃
  obtain ⟨applied, old, rfl, hold, hsave₃⟩ := settle_diffRecord_ok hsettle₃
  obtain rfl : Snapshot.ofState destroyed = old :=
    Except.ok.inj ((Snapshot.load_save hsave₂).symm.trans hold)
  refine ⟨first, ⟨destroyed, applied⟩, s₁, s₂, hfirst, hdestroyed, happlied, ?_⟩
  intro o ho
  obtain rfl := Option.some.inj ho
  exact Snapshot.read_save hsave₃

def recordedPaths (fixtures : List Fixture) : List (List Char) :=
  (fixtures.filter fun f => f.expected.isNone).map fun f => f.snapshotPath.toList

theorem mem_recordedPaths {fixtures : List Fixture} {path : List Char} :
    path ∈ recordedPaths fixtures ↔
      ∃ f ∈ fixtures, f.expected = none ∧ f.snapshotPath.toList = path := by
  simp only [recordedPaths, List.mem_map, List.mem_filter, Option.isNone_iff_eq_none, and_assoc]

theorem written_subset_recordedPaths (fixtures : List Fixture) :
    (fixtures.flatMap recording).flatMap written ⊆ recordedPaths fixtures := by
  intro path hpath
  obtain ⟨step, hstep, hpath⟩ := List.mem_flatMap.1 hpath
  obtain ⟨f, hf, hstep⟩ := List.mem_flatMap.1 hstep
  rw [recording] at hstep
  split at hstep
  · exact absurd hstep List.not_mem_nil
  · rename_i hexpected
    refine mem_recordedPaths.2 ⟨f, hf, Option.not_isSome_iff_eq_none.1 hexpected, ?_⟩
    simp only [List.mem_cons, List.not_mem_nil, or_false] at hstep
    rcases hstep with rfl | rfl | rfl
    all_goals exact (List.mem_singleton.1 hpath).symm

theorem onlyWrites_recordings (system : System σ) (w : World σ) (fixtures : List Fixture) :
    w.files.OnlyWrites (recordedPaths fixtures)
      (runAll system w (fixtures.flatMap recording)).2.files :=
  (onlyWrites_runAll system w _).mono (written_subset_recordedPaths fixtures)

/-- A recording of fixtures whose snapshots stand side by side saves for each what it has shown: what is
recorded later stands beside it. -/
theorem recordings_saved {fixtures : List Fixture}
    (hsiblings : fixtures.Pairwise fun f g => AreSiblings f.snapshotPath.toList g.snapshotPath.toList)
    (h : runAll system w (fixtures.flatMap recording) = (.ok (), w')) :
    ∃ shown, Shows system w.system fixtures shown ∧
      List.Forall₂ (IsSaved w'.files) fixtures shown := by
  induction fixtures generalizing w with
  | nil => exact ⟨[], .nil _, .nil⟩
  | cons f fixtures ih =>
      obtain ⟨hfirst, hmore⟩ := List.pairwise_cons.1 hsiblings
      rw [List.flatMap_cons, runAll_append_ok_iff] at h
      obtain ⟨v, hf, h⟩ := h
      obtain ⟨shown, hshows, hsaved⟩ := ih hmore h
      cases hexpected : f.expected with
      | some pattern =>
          have hskipped : f.expected.isSome = true := by rw [hexpected]; rfl
          rw [recording, if_pos hskipped] at hf
          obtain rfl := (Prod.mk.inj hf).2
          exact ⟨none :: shown, .skipped hskipped hshows,
            .cons (fun o ho => absurd ho (by simp)) hsaved⟩
      | none =>
          obtain ⟨first, o, s₁, s₂, happly, hdestroyed, happlied, hread⟩ := recording_ok hexpected hf
          have hkept : w'.files.read f.snapshotPath.toList = v.files.read f.snapshotPath.toList := by
            have hwrites := onlyWrites_recordings system v fixtures
            rw [h] at hwrites
            refine hwrites.read_eq _ ?_
            intro path hpath
            obtain ⟨g, hg, -, rfl⟩ := mem_recordedPaths.1 hpath
            exact (hfirst g hg).symm
          exact ⟨some o :: shown, .recorded hexpected happly hdestroyed happlied hshows,
            .cons (fun o' ho' => hkept.trans (hread o' ho')) hsaved⟩

/-- A recording leaves alone the snapshots of fixtures that it passes over. -/
theorem read_skipped {fixtures : List Fixture}
    (hsiblings : fixtures.Pairwise fun f g => AreSiblings f.snapshotPath.toList g.snapshotPath.toList)
    {files files' : FileTree} (hwrites : files.OnlyWrites (recordedPaths fixtures) files') {f : Fixture}
    (hf : f ∈ fixtures) (hexpected : f.expected.isSome = true) :
    files'.read f.snapshotPath.toList = files.read f.snapshotPath.toList := by
  refine hwrites.read_eq _ ?_
  intro path hpath
  obtain ⟨g, hg, hnone, rfl⟩ := mem_recordedPaths.1 hpath
  have hne : g ≠ f := by
    rintro rfl
    rw [hnone] at hexpected
    exact absurd hexpected (by simp)
  have : Std.Symm fun f g : Fixture =>
      AreSiblings f.snapshotPath.toList g.snapshotPath.toList := ⟨fun _ _ h => h.symm⟩
  exact hsiblings.forall hg hf hne

/-- What a recording leaves for a fixture: the difference of its observation, or what stood there. -/
def Leaves (before after : FileTree) (f : Fixture) : Option Observation → Prop
  | none => f.expected.isSome = true ∧
      Snapshot.load after f.snapshotPath = Snapshot.load before f.snapshotPath
  | some o => f.expected = none ∧ Snapshot.load after f.snapshotPath =
      .ok (Snapshot.diff (Snapshot.ofState o.destroyed) o.applied)

theorem leaves_of_saved {before after : FileTree} {s : σ} {fixtures : List Fixture}
    {shown : List (Option Observation)} (hshows : Shows system s fixtures shown)
    (hsaved : List.Forall₂ (IsSaved after) fixtures shown)
    (hskipped : ∀ f ∈ fixtures, f.expected.isSome = true →
      after.read f.snapshotPath.toList = before.read f.snapshotPath.toList) :
    List.Forall₂ (Leaves before after) fixtures shown := by
  induction hshows with
  | nil s => exact .nil
  | skipped hexpected hmore ih =>
      obtain ⟨-, hsaved⟩ := List.forall₂_cons.1 hsaved
      have hload := Snapshot.load_congr (hskipped _ List.mem_cons_self hexpected)
      exact .cons ⟨hexpected, hload⟩
        (ih hsaved fun f hf => hskipped f (List.mem_cons_of_mem _ hf))
  | recorded hexpected hfirst hdestroyed happlied hmore ih =>
      obtain ⟨hread, hsaved⟩ := List.forall₂_cons.1 hsaved
      have hload := Snapshot.load_of_read (hread _ rfl)
      exact .cons ⟨hexpected, hload⟩
        (ih hsaved fun f hf => hskipped f (List.mem_cons_of_mem _ hf))

/-- A recording of fixtures whose snapshots stand side by side leaves for each what it has shown. -/
theorem recordings_ok {fixtures : List Fixture}
    (hsiblings : fixtures.Pairwise fun f g => AreSiblings f.snapshotPath.toList g.snapshotPath.toList)
    (h : runAll system w (fixtures.flatMap recording) = (.ok (), w')) :
    ∃ shown, Shows system w.system fixtures shown ∧
      List.Forall₂ (Leaves w.files w'.files) fixtures shown ∧
      List.Forall₂ (IsSaved w'.files) fixtures shown := by
  obtain ⟨shown, hshows, hsaved⟩ := recordings_saved hsiblings h
  have hwrites := onlyWrites_recordings system w fixtures
  rw [h] at hwrites
  exact ⟨shown, hshows,
    leaves_of_saved hshows hsaved fun f hf => read_skipped hsiblings hwrites hf, hsaved⟩

end

/-! ## Replaying -/

section

variable {σ : Type} {system : System σ} {s : σ} {files : FileTree} {fixtures : List Fixture}
  {shown : List (Option Observation)}

/-- The snapshot of a fixture is readable, and its checks hold on the state that is shown again. -/
def IsReady (files : FileTree) (f : Fixture) (o : Option Observation) : Prop :=
  ∃ snapshot, Snapshot.load files f.snapshotPath = .ok snapshot ∧
    ∀ o' ∈ o, Check.verifyAll snapshot.checks o'.applied = .ok ()

theorem passes_of_ready (hready : List.Forall₂ (IsReady files) fixtures shown)
    (hagain : ShowsAgain system s fixtures shown) :
    ∃ s', Passes system files s fixtures s' := by
  induction hagain with
  | nil s => exact ⟨s, .nil s⟩
  | failed hexpected hanswer hmatch hmore ih =>
      obtain ⟨⟨snapshot, hload, -⟩, hready⟩ := List.forall₂_cons.1 hready
      obtain ⟨s', hpasses⟩ := ih hready
      exact ⟨s', .cons hload hanswer (.failed hexpected hmatch) hpasses⟩
  | applied hexpected hanswer hmore ih =>
      obtain ⟨⟨snapshot, hload, hchecks⟩, hready⟩ := List.forall₂_cons.1 hready
      obtain ⟨s', hpasses⟩ := ih hready
      have hmet : snapshot.IsMetBy _ := Snapshot.verifyAll_checks_iff.1 (hchecks _ rfl)
      exact ⟨s', .cons hload hanswer (.applied hexpected hmet) hpasses⟩

/-- When all snapshots are ready, the replay is planned, succeeds and writes nothing. -/
theorem replay_ok (hready : List.Forall₂ (IsReady files) fixtures shown)
    (hagain : ShowsAgain system s fixtures shown) :
    ∃ checks, plan files .replay fixtures = .ok checks ∧
      ∃ s', runAll system ⟨files, s⟩ checks = (.ok (), ⟨files, s'⟩) := by
  obtain ⟨s', hpasses⟩ := passes_of_ready hready hagain
  obtain ⟨checks, hplan⟩ := exists_plan_replay_iff.2 hpasses.exists_load
  exact ⟨checks, hplan, s', (runAll_replay_ok_iff hplan).2 ⟨rfl, hpasses⟩⟩

end

/-! ## Recording and replaying -/

theorem isReady_of_leaves {before after : FileTree} {f : Fixture} {o : Option Observation}
    (h : Leaves before after f o)
    (hload : f.expected.isSome = true → ∃ s, Snapshot.load before f.snapshotPath = .ok s)
    (hempty : ∀ o' ∈ o, Snapshot.KeepsEmpty (Snapshot.ofState o'.destroyed) o'.applied) :
    IsReady after f o := by
  cases o with
  | none =>
      obtain ⟨s, hs⟩ := hload h.1
      exact ⟨s, h.2.trans hs, fun o' ho' => absurd ho' (by simp)⟩
  | some o =>
      refine ⟨_, h.2, ?_⟩
      intro o' ho'
      obtain rfl := Option.some.inj ho'
      exact Snapshot.verifyAll_diff_iff.2 (hempty o rfl)

theorem load_of_leaves {before after : FileTree} {fixtures : List Fixture}
    {shown : List (Option Observation)} (h : List.Forall₂ (Leaves before after) fixtures shown)
    {f : Fixture} (hf : f ∈ fixtures) (hexpected : f.expected.isSome = true) :
    Snapshot.load after f.snapshotPath = Snapshot.load before f.snapshotPath := by
  induction h with
  | nil => exact absurd hf List.not_mem_nil
  | @cons g o fixtures shown hleaves hmore ih =>
      rcases List.mem_cons.1 hf with rfl | hf
      · cases o with
        | none => exact hleaves.2
        | some o =>
            rw [hleaves.1] at hexpected
            exact absurd hexpected (by simp)
      · exact ih hf

/-- The checks of a difference hold on its state when no attribute became empty. So after a recording that
succeeded, in which no attribute became empty, the replay against a system that shows the last states
again succeeds exactly if the snapshots of the fixtures that expect errors, which recordings pass over, were
readable. -/
theorem recording_replays :
    (∀ old state, Snapshot.KeepsEmpty old state →
      Check.verifyAll (Snapshot.diff old state).checks state = .ok ()) ∧
    ∀ (files : ProperTree) {directory : String} {fixtures : List Fixture} {σ : Type}
      {system : System σ} {w w' : World σ} {steps : List Step},
      Fixture.discover files directory = .ok fixtures →
      plan w.files .record fixtures = .ok steps → runAll system w steps = (.ok (), w') →
      ∃ shown, Shows system w.system fixtures shown ∧
        ∀ {τ : Type} (again : System τ) (t : τ), ShowsAgain again t fixtures shown →
          (∀ o, some o ∈ shown → Snapshot.KeepsEmpty (Snapshot.ofState o.destroyed) o.applied) →
          ((∃ checks, plan w'.files .replay fixtures = .ok checks ∧
              ∃ t', runAll again ⟨w'.files, t⟩ checks = (.ok (), ⟨w'.files, t'⟩)) ↔
            ∀ f ∈ fixtures, f.expected.isSome = true →
              ∃ s, Snapshot.load w.files f.snapshotPath = .ok s) := by
  refine ⟨fun old state h => Snapshot.verifyAll_diff_iff.2 h, ?_⟩
  intro files directory fixtures σ system w w' steps hdiscover hplan hrun
  obtain rfl := Except.ok.inj ((plan_record w.files fixtures).symm.trans hplan)
  obtain ⟨shown, hshows, hleaves, -⟩ :=
    recordings_ok (Fixture.siblings_of_discover hdiscover) hrun
  refine ⟨shown, hshows, ?_⟩
  intro τ again t hagain hempty
  constructor
  · rintro ⟨checks, hreplay, -⟩ f hf hexpected
    obtain ⟨s, hs⟩ := exists_plan_replay_iff.1 ⟨checks, hreplay⟩ f hf
    exact ⟨s, (load_of_leaves hleaves hf hexpected).symm.trans hs⟩
  · intro hload
    apply replay_ok ?_ hagain
    clear hagain hshows hrun hplan hdiscover
    induction hleaves with
    | nil => exact .nil
    | cons hleaves hmore ih =>
        refine .cons (isReady_of_leaves hleaves (hload _ List.mem_cons_self) ?_) (ih ?_ ?_)
        · intro o' ho'
          exact hempty o' (List.mem_cons.2 (.inl (Option.mem_def.1 ho').symm))
        · exact fun o ho => hempty o (List.mem_cons_of_mem _ ho)
        · exact fun f hf => hload f (List.mem_cons_of_mem _ hf)

def tokenFixtures : List Fixture :=
  [⟨"fixtures/a.tf", "fixtures/a.json", "token", none⟩,
    ⟨"fixtures/b.tf", "fixtures/b.json", "# Error: denied", Pattern.ofText? "denied"⟩]

def tokenFiles (snapshot : List (Location × Entry)) : FileTree :=
  ⟨snapshot ++ [(["fixtures"], .directory),
    (["fixtures", "a.tf"], .file (Text.Utf8.encode "token".toList)),
    (["fixtures", "b.tf"], .file (Text.Utf8.encode "# Error: denied".toList))], []⟩

def tokenTree : ProperTree := ⟨tokenFiles [], by constructor <;> decide +kernel⟩

def tokenState (id : String) : State := .ofResources [("token", [("%", "2"), ("id", id), ("kind", "t")])]

def tokenScript (first destroyed applied : String) : Script :=
  ⟨[.ok (tokenState first), .ok (tokenState destroyed), .ok (tokenState applied)], []⟩

theorem discover_tokenFiles : Fixture.discover (tokenFiles []) "fixtures" = .ok tokenFixtures := by
  have hpaths : Fixture.paths (tokenFiles []) "fixtures" = .ok ["fixtures/a.tf", "fixtures/b.tf"] := by
    have hnames : (tokenFiles []).names "fixtures".toList = .ok ["a.tf", "b.tf"] := by decide +kernel
    have hfilter : ["a.tf", "b.tf"].filter Fixture.isConfigName = ["a.tf", "b.tf"] := by
      decide +kernel
    have horder : Fixture.inOrder ["a.tf", "b.tf"] = ["a.tf", "b.tf"] :=
      List.mergeSort_of_pairwise (by decide +kernel)
    rw [Fixture.paths, hnames]
    simp only [hfilter, horder]
    decide +kernel
  rw [Fixture.discover, hpaths]
  decide +kernel

theorem recording_replays_token :
    ∃ w' checks, runAll Script.system ⟨tokenFiles [], tokenScript "1" "1" "2"⟩
        (tokenFixtures.flatMap recording) = (.ok (), w') ∧
      plan w'.files .replay tokenFixtures = .ok checks ∧
      ∃ t', runAll Script.system
        ⟨w'.files, ⟨[.ok (tokenState "2"), .error "permission denied"], []⟩⟩ checks =
          (.ok (), ⟨w'.files, t'⟩) := by
  let w : World Script := ⟨tokenFiles [], tokenScript "1" "1" "2"⟩
  have hrun : runAll Script.system w (tokenFixtures.flatMap recording) =
      (.ok (), (runAll Script.system w (tokenFixtures.flatMap recording)).2) :=
    Prod.ext (by decide +kernel) rfl
  obtain ⟨shown, hshows, hreplay⟩ := recording_replays.2 tokenTree discover_tokenFiles
    (plan_record w.files tokenFixtures) hrun
  have hsome : (Pattern.ofText? "denied").isSome = true := by decide +kernel
  have hshown : shown = [some ⟨tokenState "1", tokenState "2"⟩, none] := by
    rw [tokenFixtures] at hshows
    cases hshows with
    | skipped hexpected => exact absurd hexpected (by decide)
    | @recorded _ s₁ s₂ s₃ _ _ _ first o hexpected hfirst hdestroyed happlied hmore =>
        obtain rfl := (Prod.mk.inj hfirst).2
        obtain ⟨hd, rfl⟩ := Prod.mk.inj hdestroyed
        obtain ⟨ha, rfl⟩ := Prod.mk.inj happlied
        obtain ⟨destroyed, applied⟩ := o
        obtain rfl : tokenState "1" = destroyed := Except.ok.inj hd
        obtain rfl : tokenState "2" = applied := Except.ok.inj ha
        cases hmore with
        | skipped _ hmore =>
            cases hmore with
            | nil => rfl
        | recorded hexpected =>
            have hnone : Pattern.ofText? "denied" = none := hexpected
            rw [hnone] at hsome
            exact absurd hsome (by decide)
  obtain ⟨pattern, hpattern⟩ := Option.isSome_iff_exists.1 hsome
  have hmatch : pattern.matchesIn "permission denied" = true := by
    have hfound : (Pattern.ofText? "denied").all fun p => p.matchesIn "permission denied" := by
      decide +kernel
    rw [hpattern] at hfound
    exact hfound
  have hagain : ShowsAgain Script.system
      ⟨[.ok (tokenState "2"), .error "permission denied"], []⟩ tokenFixtures shown := by
    rw [hshown]
    exact .applied rfl rfl (.failed hpattern rfl hmatch (.nil _))
  have hempty : ∀ o, some o ∈ shown →
      Snapshot.KeepsEmpty (Snapshot.ofState o.destroyed) o.applied := by
    rw [hshown]
    intro o ho
    obtain rfl : o = ⟨tokenState "1", tokenState "2"⟩ := by simpa using ho
    exact Snapshot.verifyAll_diff_iff.1 (by decide +kernel)
  have hload : ∀ f ∈ tokenFixtures, f.expected.isSome = true →
      ∃ s, Snapshot.load w.files f.snapshotPath = .ok s := by
    intro f hf _
    have hall : ∀ f ∈ tokenFixtures, (Snapshot.load w.files f.snapshotPath).isOk = true := by
      decide +kernel
    exact exists_of_isOk (hall f hf)
  obtain ⟨checks, hplan, t', hagainRun⟩ := (hreplay Script.system _ hagain hempty).2 hload
  exact ⟨_, checks, hrun, hplan, t', hagainRun⟩

/-- What is left when a token lost its identifier on the last application. -/
def emptiedWorld : World Script :=
  (runAll Script.system ⟨tokenFiles [], tokenScript "1" "1" ""⟩ (tokenFixtures.flatMap recording)).2

/-- Files with a snapshot that is no object, where nothing is recorded. -/
def malformedFiles : FileTree := tokenFiles [(["fixtures", "b.json"], .file [0x5B])]

/-- What is left when a token is recorded beside such a snapshot. -/
def malformedWorld : World Script :=
  (runAll Script.system ⟨malformedFiles, tokenScript "1" "1" "2"⟩ (tokenFixtures.flatMap recording)).2

/-- A recording that succeeded does not replay when an attribute became empty on the last application, nor
when a malformed file stands at the place of a snapshot that is not recorded. -/
theorem recording_may_not_replay :
    Fixture.discover (tokenFiles []) "fixtures" = .ok tokenFixtures ∧
    (∃ old state, Check.verifyAll (Snapshot.diff old state).checks state ≠ .ok ()) ∧
    (runAll Script.system ⟨tokenFiles [], tokenScript "1" "1" ""⟩ (tokenFixtures.flatMap recording) =
        (.ok (), emptiedWorld) ∧
      (plan emptiedWorld.files .replay tokenFixtures).map (fun checks => (runAll Script.system
        ⟨emptiedWorld.files, ⟨[.ok (tokenState ""), .error "permission denied"], []⟩⟩ checks).1) =
          .ok (.error (.checksFailed ["token.id: expected to be set"]))) ∧
    runAll Script.system ⟨malformedFiles, tokenScript "1" "1" "2"⟩ (tokenFixtures.flatMap recording) =
        (.ok (), malformedWorld) ∧
      plan malformedWorld.files .replay tokenFixtures = .error (.snapshot "fixtures/b.json"
        "invalid type: sequence, expected a map at line 1 column 0") := by
  refine ⟨discover_tokenFiles, ⟨.empty, tokenState "", ?_⟩, ⟨Prod.ext ?_ rfl, ?_⟩, Prod.ext ?_ rfl, ?_⟩
  all_goals decide +kernel

end Step

end AttributeSchema
