import AttributeSchema.Acceptance.Script
import AttributeSchema.Proofs.Acceptance.Run
/-!
# What replays decide

A replay is planned when every snapshot can be read, and before anything is asked. It then applies the
fixtures one after the other, up to the first one whose answer is not what its snapshot or its pattern asks
for. It never destroys, and it writes nothing.
-/

namespace AttributeSchema

/-- A state has what a snapshot keeps: some value where only that was kept, else the kept one. -/
def Snapshot.IsMetBy (s : Snapshot) (state : State) : Prop :=
  ∀ resource name kept, s.get? resource name = some kept →
    if kept = presentOnly then ∃ value, state.value? resource name = some value ∧ value ≠ ""
    else state.value? resource name = some kept

/-- The file of a snapshot cannot be read, or its text is no snapshot. No file at all is as good as a
snapshot without resources. -/
def Snapshot.IsBroken (files : FileTree) (path : String) : Prop :=
  match readText files path with
  | .ok text => ∃ detail, ofText text = .error detail
  | .error e => e ≠ .notFound

theorem Snapshot.isBroken_iff {files : FileTree} {path : String} :
    IsBroken files path ↔ ∃ e, load files path = .error e := by
  rw [IsBroken, load]
  cases readText files path with
  | ok text =>
      cases hread : ofText text with
      | ok s => simp [hread]
      | error detail => simp [hread]
  | error e => cases e <;> simp

theorem Snapshot.not_isBroken_iff {files : FileTree} {path : String} :
    ¬ IsBroken files path ↔ ∃ s, load files path = .ok s := by
  rw [isBroken_iff]
  cases load files path with
  | ok s => simp
  | error e => simp

namespace Step

variable {σ : Type} {system : System σ} {s : σ} {w w' : World σ} {files : FileTree}
  {f : Fixture} {fixtures : List Fixture} {steps : List Step} {e : AcceptanceError}

/-! ## Verdicts on one answer -/

/-- The answer that a fixture and its snapshot ask for. -/
inductive Accepts (f : Fixture) (snapshot : Snapshot) : Except String State → Prop
  | applied {state : State} (hexpected : f.expected = none) (hmet : snapshot.IsMetBy state) :
      Accepts f snapshot (.ok state)
  | failed {pattern : Pattern} {message : String} (hexpected : f.expected = some pattern)
      (hmatch : pattern.matchesIn message = true) : Accepts f snapshot (.error message)

inductive Rejects (f : Fixture) (snapshot : Snapshot) :
    Except String State → AcceptanceError → Prop
  | system {message : String} (hexpected : f.expected = none) :
      Rejects f snapshot (.error message) (.system message)
  | checksFailed {state : State} (hexpected : f.expected = none) (hunmet : ¬ snapshot.IsMetBy state) :
      Rejects f snapshot (.ok state)
        (.checksFailed (snapshot.checks.filterMap (Check.failure? state)))
  | missingError {pattern : Pattern} {state : State} (hexpected : f.expected = some pattern) :
      Rejects f snapshot (.ok state) (.missingError pattern.text)
  | unexpectedError {pattern : Pattern} {message : String} (hexpected : f.expected = some pattern)
      (hmatch : pattern.matchesIn message = false) :
      Rejects f snapshot (.error message) (.unexpectedError pattern.text message)

theorem verifyAll_of_unmet {snapshot : Snapshot} {state : State} (h : ¬ snapshot.IsMetBy state) :
    Check.verifyAll snapshot.checks state =
      .error (.checksFailed (snapshot.checks.filterMap (Check.failure? state))) := by
  rw [Snapshot.IsMetBy, ← Snapshot.verifyAll_checks_iff, Check.verifyAll] at h
  rw [Check.verifyAll]
  split
  · rename_i hnil
    rw [hnil] at h
    exact absurd rfl h
  · rfl

theorem judge_of_accepts {snapshot : Snapshot} {answer : Except String State}
    (h : Accepts f snapshot answer) : judge f.expected snapshot.checks answer = .ok () := by
  cases h with
  | applied hexpected hmet =>
      rw [hexpected]
      exact Snapshot.verifyAll_checks_iff.2 hmet
  | failed hexpected hmatch => rw [hexpected, judge, if_pos hmatch]

theorem judge_of_rejects {snapshot : Snapshot} {answer : Except String State}
    (h : Rejects f snapshot answer e) : judge f.expected snapshot.checks answer = .error e := by
  cases h with
  | system hexpected => rw [hexpected, judge]
  | checksFailed hexpected hunmet =>
      rw [hexpected]
      exact verifyAll_of_unmet hunmet
  | missingError hexpected => rw [hexpected, judge]
  | unexpectedError hexpected hmatch => rw [hexpected, judge, if_neg (by simp [hmatch])]

theorem accepts_or_rejects (f : Fixture) (snapshot : Snapshot) (answer : Except String State) :
    Accepts f snapshot answer ∨ ∃ e, Rejects f snapshot answer e := by
  cases hexpected : f.expected with
  | none =>
      cases answer with
      | error message => exact .inr ⟨_, .system hexpected⟩
      | ok state =>
          by_cases hmet : snapshot.IsMetBy state
          · exact .inl (.applied hexpected hmet)
          · exact .inr ⟨_, .checksFailed hexpected hmet⟩
  | some pattern =>
      cases answer with
      | ok state => exact .inr ⟨_, .missingError hexpected⟩
      | error message =>
          cases hmatch : pattern.matchesIn message with
          | true => exact .inl (.failed hexpected hmatch)
          | false => exact .inr ⟨_, .unexpectedError hexpected hmatch⟩

theorem judge_ok_iff {snapshot : Snapshot} {answer : Except String State} :
    judge f.expected snapshot.checks answer = .ok () ↔ Accepts f snapshot answer := by
  refine ⟨fun h => ?_, judge_of_accepts⟩
  rcases accepts_or_rejects f snapshot answer with haccepts | ⟨e, hrejects⟩
  · exact haccepts
  · exact absurd (h.symm.trans (judge_of_rejects hrejects)) (by simp)

theorem judge_error_iff {snapshot : Snapshot} {answer : Except String State} :
    judge f.expected snapshot.checks answer = .error e ↔ Rejects f snapshot answer e := by
  refine ⟨fun h => ?_, judge_of_rejects⟩
  rcases accepts_or_rejects f snapshot answer with haccepts | ⟨e', hrejects⟩
  · exact absurd (h.symm.trans (judge_of_accepts haccepts)) (by simp)
  · have he : e = e' := Except.error.inj (h.symm.trans (judge_of_rejects hrejects))
    exact he ▸ hrejects

/-- A check applies its configuration, judges the answer, and leaves the files alone. -/
theorem run_check (system : System σ) (w : World σ) (config : String) (expected : Option Pattern)
    (checks : List Check) :
    (check config expected checks).run system w =
      (judge expected checks (system.perform .apply config w.system).1,
        ⟨w.files, (system.perform .apply config w.system).2⟩) := by
  rw [run]
  simp only [request, settle]
  cases judge expected checks (system.perform .apply config w.system).1 with
  | ok u => rfl
  | error e => rfl

/-! ## Plans of replays -/

theorem plan_replay_cons_ok_iff :
    plan files .replay (f :: fixtures) = .ok steps ↔
      ∃ snapshot more, Snapshot.load files f.snapshotPath = .ok snapshot ∧
        plan files .replay fixtures = .ok more ∧
        steps = check f.config f.expected snapshot.checks :: more := by
  rw [plan_cons_ok_iff]
  constructor
  · rintro ⟨first, more, hfirst, hmore, rfl⟩
    obtain ⟨snapshot, hload, hfirst⟩ := bind_ok_iff.1 hfirst
    obtain rfl := Except.ok.inj hfirst
    exact ⟨snapshot, more, hload, hmore, rfl⟩
  · rintro ⟨snapshot, more, hload, hmore, rfl⟩
    exact ⟨_, more, bind_ok_iff.2 ⟨snapshot, hload, rfl⟩, hmore, rfl⟩

theorem replaying_ok_iff :
    (∃ first, replaying files f = .ok first) ↔
      ∃ snapshot, Snapshot.load files f.snapshotPath = .ok snapshot := by
  simp only [replaying, bind_ok_iff]
  constructor
  · rintro ⟨_, snapshot, hload, -⟩
    exact ⟨snapshot, hload⟩
  · rintro ⟨snapshot, hload⟩
    exact ⟨_, snapshot, hload, rfl⟩

theorem replaying_error_iff :
    replaying files f = .error e ↔ Snapshot.load files f.snapshotPath = .error e := by
  simp [replaying, bind_error_iff]

/-- A replay cannot be planned because of the first snapshot that cannot be loaded. -/
theorem plan_replay_error_iff :
    plan files .replay fixtures = .error e ↔
      ∃ before f after, fixtures = before ++ f :: after ∧
        (∀ g ∈ before, ∃ snapshot, Snapshot.load files g.snapshotPath = .ok snapshot) ∧
        Snapshot.load files f.snapshotPath = .error e := by
  have hreplaying : ofFixture files .replay = replaying files := rfl
  rw [plan_error_iff, mapM_error_iff, hreplaying]
  simp only [replaying_ok_iff, replaying_error_iff]

theorem exists_plan_replay_iff :
    (∃ steps, plan files .replay fixtures = .ok steps) ↔
      ∀ f ∈ fixtures, ∃ snapshot, Snapshot.load files f.snapshotPath = .ok snapshot := by
  have hreplaying : ofFixture files .replay = replaying files := rfl
  simp only [← replaying_ok_iff, ← exists_mapM_ok_iff, ← hreplaying, plan, bind_ok_iff]
  constructor
  · rintro ⟨_, parts, hparts, -⟩
    exact ⟨parts, hparts⟩
  · rintro ⟨parts, hparts⟩
    exact ⟨_, parts, hparts, rfl⟩

/-- Up to a step of a plan, the plan is one of the fixtures before the one of that step. -/
theorem exists_fixture_of_plan {before after : List Step} {step : Step}
    (h : plan files .replay fixtures = .ok (before ++ step :: after)) :
    ∃ done f rest snapshot, fixtures = done ++ f :: rest ∧ plan files .replay done = .ok before ∧
      Snapshot.load files f.snapshotPath = .ok snapshot ∧
      step = check f.config f.expected snapshot.checks := by
  induction before generalizing fixtures with
  | nil =>
      cases fixtures with
      | nil => exact absurd h (by simp [plan_nil])
      | cons f fixtures =>
          obtain ⟨snapshot, more, hload, -, hsteps⟩ := plan_replay_cons_ok_iff.1 h
          exact ⟨[], f, fixtures, snapshot, rfl, rfl, hload, (List.cons.inj hsteps).1⟩
  | cons first before ih =>
      cases fixtures with
      | nil => exact absurd h (by simp [plan_nil])
      | cons g fixtures =>
          obtain ⟨kept, more, hkept, hmore, hsteps⟩ := plan_replay_cons_ok_iff.1 h
          obtain ⟨rfl, rfl⟩ := List.cons.inj hsteps
          obtain ⟨done, f, rest, snapshot, rfl, hdone, hload, hstep⟩ := ih hmore
          exact ⟨g :: done, f, rest, snapshot, rfl,
            plan_replay_cons_ok_iff.2 ⟨kept, before, hkept, hdone, rfl⟩, hload, hstep⟩

theorem map_request_of_plan (h : plan files .replay fixtures = .ok steps) :
    steps.map request = fixtures.map fun f => (.apply, f.config) := by
  induction fixtures generalizing steps with
  | nil =>
      obtain rfl := Except.ok.inj h
      rfl
  | cons f fixtures ih =>
      obtain ⟨snapshot, more, -, hmore, rfl⟩ := plan_replay_cons_ok_iff.1 h
      rw [List.map_cons, List.map_cons, ih hmore]
      rfl

/-! ## Runs of replays -/

/-- A system that gives each fixture in turn the answer that is asked for. -/
inductive Passes {σ : Type} (system : System σ) (files : FileTree) : σ → List Fixture → σ → Prop
  | nil (s : σ) : Passes system files s [] s
  | cons {s s' s'' : σ} {f : Fixture} {fixtures : List Fixture} {snapshot : Snapshot}
      {answer : Except String State}
      (hload : Snapshot.load files f.snapshotPath = .ok snapshot)
      (hanswer : system.perform .apply f.config s = (answer, s'))
      (haccepts : Accepts f snapshot answer) (hmore : Passes system files s' fixtures s'') :
      Passes system files s (f :: fixtures) s''

theorem Passes.exists_load {s' : σ} (h : Passes system files s fixtures s') :
    ∀ f ∈ fixtures, ∃ snapshot, Snapshot.load files f.snapshotPath = .ok snapshot := by
  induction h with
  | nil s => exact fun f hf => absurd hf List.not_mem_nil
  | cons hload hanswer haccepts hmore ih => exact List.forall_mem_cons.2 ⟨⟨_, hload⟩, ih⟩

theorem runAll_replay_ok_iff (hplan : plan files .replay fixtures = .ok steps) :
    runAll system ⟨files, s⟩ steps = (.ok (), w') ↔
      w'.files = files ∧ Passes system files s fixtures w'.system := by
  induction fixtures generalizing s steps with
  | nil =>
      obtain rfl := Except.ok.inj hplan
      constructor
      · intro h
        obtain rfl := (Prod.mk.inj h).2
        exact ⟨rfl, .nil s⟩
      · obtain ⟨files', s'⟩ := w'
        rintro ⟨rfl, hpasses⟩
        cases hpasses with
        | nil => rfl
  | cons f fixtures ih =>
      obtain ⟨snapshot, more, hload, hmore, rfl⟩ := plan_replay_cons_ok_iff.1 hplan
      rw [runAll_cons_ok_iff]
      constructor
      · rintro ⟨v, hstep, hrun⟩
        rw [run_check] at hstep
        obtain ⟨hjudge, rfl⟩ := Prod.mk.inj hstep
        obtain ⟨hfiles, hpasses⟩ := (ih hmore).1 hrun
        exact ⟨hfiles, .cons hload rfl (judge_ok_iff.1 hjudge) hpasses⟩
      · rintro ⟨hfiles, hpasses⟩
        -- Both the plan and the run of the system loaded the snapshot of the first fixture.
        cases hpasses with
        | @cons _ s' _ _ _ kept answer hkept hanswer haccepts hrest =>
            obtain rfl := Except.ok.inj (hload.symm.trans hkept)
            refine ⟨⟨files, s'⟩, ?_, (ih hmore).2 ⟨hfiles, hrest⟩⟩
            rw [run_check, hanswer, judge_ok_iff.2 haccepts]

/-- A replay fails at the first fixture whose answer is rejected, behind those that pass. -/
theorem runAll_replay_error (hplan : plan w.files .replay fixtures = .ok steps)
    (h : runAll system w steps = (.error e, w')) :
    ∃ before f after s snapshot answer, fixtures = before ++ f :: after ∧
      Passes system w.files w.system before s ∧
      Snapshot.load w.files f.snapshotPath = .ok snapshot ∧
      system.perform .apply f.config s = (answer, w'.system) ∧ Rejects f snapshot answer e ∧
      w'.files = w.files ∧
      ∀ log, runAll system.logged (w.withLog log) steps =
        (.error e, w'.withLog (log ++ (before ++ [f]).map fun g => (.apply, g.config))) := by
  obtain ⟨before, step, after, v, rfl, hbefore, hstep⟩ := exists_failed_of_runAll h
  obtain ⟨done, f, rest, snapshot, rfl, hdone, hload, rfl⟩ := exists_fixture_of_plan hplan
  obtain ⟨hfiles, hpasses⟩ := (runAll_replay_ok_iff hdone).1 hbefore
  have hlogged (log : List (Action × String)) :
      runAll system.logged (w.withLog log) (before ++ _ :: after) = _ :=
    runAll_logged_error hbefore hstep log
  rw [run_check] at hstep
  obtain ⟨hjudge, rfl⟩ := Prod.mk.inj hstep
  refine ⟨done, f, rest, v.system, snapshot, _, rfl, hpasses, hload, rfl, judge_error_iff.1 hjudge, hfiles,
    fun log => ?_⟩
  rw [hlogged, List.map_append, List.map_append, map_request_of_plan hdone]
  rfl

theorem files_of_replay (system : System σ) (hplan : plan w.files .replay fixtures = .ok steps) :
    (runAll system w steps).2.files = w.files := by
  cases hrun : runAll system w steps with
  | mk result v =>
      cases result with
      | ok u => exact ((runAll_replay_ok_iff hplan).1 hrun).1
      | error e =>
          obtain ⟨_, _, _, _, _, _, -, -, -, -, -, hfiles, -⟩ := runAll_replay_error hplan hrun
          exact hfiles

def replay (system : System σ) (w : World σ) (fixtures : List Fixture) :
    Except AcceptanceError Unit × World σ :=
  match plan w.files .replay fixtures with
  | .ok steps => runAll system w steps
  | .error e => (.error e, w)

/-- A replay fails before anything is asked if a snapshot is broken, because of the first one that is.
Otherwise it succeeds exactly if every fixture in turn gets the answer that is asked for, and it has then
applied each of them once. If it fails, it has applied the fixtures up to the first one whose answer is
rejected, and says how that one is. It asks for nothing else, and all files stay as they are. -/
theorem replay_verdict (system : System σ) (w : World σ) (fixtures : List Fixture) :
    (∀ e, plan w.files .replay fixtures = .error e ↔
      ∃ before f after, fixtures = before ++ f :: after ∧
        (∀ g ∈ before, ¬ Snapshot.IsBroken w.files g.snapshotPath) ∧
        Snapshot.load w.files f.snapshotPath = .error e) ∧
    ((∃ f ∈ fixtures, Snapshot.IsBroken w.files f.snapshotPath) →
      ∃ e, plan w.files .replay fixtures = .error e ∧
        replay system.logged (w.withLog []) fixtures = (.error e, w.withLog [])) ∧
    ((∀ f ∈ fixtures, ¬ Snapshot.IsBroken w.files f.snapshotPath) →
      ∃ steps, plan w.files .replay fixtures = .ok steps ∧
        (runAll system w steps).2.files = w.files ∧
        (∀ s, runAll system w steps = (.ok (), ⟨w.files, s⟩) ↔
          Passes system w.files w.system fixtures s) ∧
        (∀ w', runAll system w steps = (.ok (), w') →
          replay system.logged (w.withLog []) fixtures =
            (.ok (), w'.withLog (fixtures.map fun f => (.apply, f.config)))) ∧
        ∀ e w', runAll system w steps = (.error e, w') →
          ∃ before f after s snapshot answer, fixtures = before ++ f :: after ∧
            Passes system w.files w.system before s ∧
            Snapshot.load w.files f.snapshotPath = .ok snapshot ∧
            system.perform .apply f.config s = (answer, w'.system) ∧ Rejects f snapshot answer e ∧
            replay system.logged (w.withLog []) fixtures =
              (.error e, w'.withLog ((before ++ [f]).map fun g => (.apply, g.config)))) := by
  have herror : ∀ e, plan w.files .replay fixtures = .error e ↔
      ∃ before f after, fixtures = before ++ f :: after ∧
        (∀ g ∈ before, ¬ Snapshot.IsBroken w.files g.snapshotPath) ∧
        Snapshot.load w.files f.snapshotPath = .error e := by
    intro e
    simp only [plan_replay_error_iff, Snapshot.not_isBroken_iff]
  refine ⟨herror, ?_, ?_⟩
  · rintro ⟨f, hf, hbroken⟩
    cases hplan : plan w.files .replay fixtures with
    | error e =>
        refine ⟨e, rfl, ?_⟩
        have hlogged : plan (w.withLog []).files .replay fixtures = .error e := hplan
        rw [replay, hlogged]
    | ok steps =>
        have hload := exists_plan_replay_iff.1 ⟨steps, hplan⟩ f hf
        exact absurd hbroken (Snapshot.not_isBroken_iff.2 hload)
  · intro hload
    cases hplan : plan w.files .replay fixtures with
    | error e =>
        obtain ⟨before, f, after, rfl, -, hf⟩ := (herror e).1 hplan
        have hmem : f ∈ before ++ f :: after := List.mem_append_right _ List.mem_cons_self
        exact absurd (Snapshot.isBroken_iff.2 ⟨e, hf⟩) (hload f hmem)
    | ok steps =>
        have hlogged : replay system.logged (w.withLog []) fixtures =
            runAll system.logged (w.withLog []) steps := by
          have hsame : plan (w.withLog []).files .replay fixtures = .ok steps := hplan
          rw [replay, hsame]
        refine ⟨steps, rfl, files_of_replay system hplan, ?_, ?_, ?_⟩
        · intro s
          exact (runAll_replay_ok_iff hplan).trans (and_iff_right rfl)
        · intro w' hrun
          rw [hlogged, runAll_logged_ok hrun, List.nil_append, map_request_of_plan hplan]
        · intro e w' hrun
          obtain ⟨before, f, after, s, snapshot, answer, hsplit, hpasses, hf, hanswer, hrejects, -, hlog⟩ :=
            runAll_replay_error hplan hrun
          refine ⟨before, f, after, s, snapshot, answer, hsplit, hpasses, hf, hanswer, hrejects, ?_⟩
          rw [hlogged, hlog, List.nil_append]

def replayedFixtures : List Fixture :=
  [⟨"a.tf", "a.json", "kv", none⟩, ⟨"b.tf", "b.json", "# Error: denied", Pattern.ofText? "denied"⟩]

def replayedFiles (text : String) : FileTree :=
  ⟨[(["a.json"], .file (Text.Utf8.encode text.toList))], []⟩

def replayedText : String := "\x7b\"kv\": \x7b\"id\": \"set()\", \"name\": \"ci\"\x7d\x7d"

theorem replay_verdict_kv :
    (∃ s, Passes Script.system (replayedFiles replayedText)
      ⟨[.ok (.ofResources [("kv", [("id", "7"), ("name", "ci")])]), .error "access denied"], []⟩
      replayedFixtures s) ∧
    (∃ f ∈ replayedFixtures, ∃ snapshot answer,
      Rejects f snapshot answer (.checksFailed ["kv.id: expected to be set"])) ∧
    ∃ e, replay Script.system.logged (World.withLog ⟨replayedFiles "\x7b", ⟨[], []⟩⟩ [])
      replayedFixtures = (.error e, World.withLog ⟨replayedFiles "\x7b", ⟨[], []⟩⟩ []) := by
  have hload : ∀ f ∈ replayedFixtures,
      ¬ Snapshot.IsBroken (replayedFiles replayedText) f.snapshotPath := by
    have hall : ∀ f ∈ replayedFixtures,
        (Snapshot.load (replayedFiles replayedText) f.snapshotPath).isOk = true := by decide +kernel
    exact fun f hf => Snapshot.not_isBroken_iff.2 (exists_of_isOk (hall f hf))
  refine ⟨?_, ?_, ?_⟩
  · let w : World Script := ⟨replayedFiles replayedText,
      ⟨[.ok (.ofResources [("kv", [("id", "7"), ("name", "ci")])]), .error "access denied"], []⟩⟩
    have hresult : (replay Script.system w replayedFixtures).1 = .ok () := by decide +kernel
    obtain ⟨steps, hplan, hfiles, hok, -⟩ := (replay_verdict Script.system w replayedFixtures).2.2 hload
    rw [replay, hplan] at hresult
    exact ⟨_, (hok _).1 (Prod.ext hresult (by rw [← hfiles]))⟩
  · let w : World Script := ⟨replayedFiles replayedText,
      ⟨[.ok (.ofResources [("kv", [("id", ""), ("name", "ci")])])], []⟩⟩
    have hresult : (replay Script.system w replayedFixtures).1 =
        .error (.checksFailed ["kv.id: expected to be set"]) := by decide +kernel
    obtain ⟨steps, hplan, -, -, -, herror⟩ :=
      (replay_verdict Script.system w replayedFixtures).2.2 hload
    rw [replay, hplan] at hresult
    obtain ⟨before, f, after, s, snapshot, answer, hsplit, -, -, -, hrejects, -⟩ :=
      herror _ _ (Prod.ext hresult rfl)
    exact ⟨f, hsplit ▸ List.mem_append_right _ List.mem_cons_self, snapshot, answer, hrejects⟩
  · have hbroken : ∃ f ∈ replayedFixtures, Snapshot.IsBroken (replayedFiles "\x7b") f.snapshotPath := by
      have hfails : (Snapshot.load (replayedFiles "\x7b") "a.json").isOk = false := by decide +kernel
      refine ⟨_, List.mem_cons_self, ?_⟩
      by_contra hload
      obtain ⟨s, hs⟩ := Snapshot.not_isBroken_iff.1 hload
      rw [hs] at hfails
      exact absurd hfails (by simp [Except.isOk, Except.toBool])
    obtain ⟨e, -, hreplay⟩ := (replay_verdict Script.system
      ⟨replayedFiles "\x7b", ⟨[], []⟩⟩ replayedFixtures).2.1 hbroken
    exact ⟨e, hreplay⟩

end Step

end AttributeSchema
