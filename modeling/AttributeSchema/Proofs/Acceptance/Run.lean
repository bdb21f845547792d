import AttributeSchema.Acceptance.Step
import AttributeSchema.Proofs.Acceptance.Snapshot
import AttributeSchema.Proofs.Traverse
/-!
# Runs of steps

A run that succeeds is a chain of steps that succeed, and one that fails is such a chain up to a step that
fails. What a step does to the files depends on the answer of the system alone.
-/

namespace AttributeSchema

/-- The system that keeps what it was asked to do, last request last. -/
def System.logged {σ : Type} (system : System σ) : System (σ × List (Action × String)) where
  perform action config s :=
    ((system.perform action config s.1).1, (system.perform action config s.1).2,
      s.2 ++ [(action, config)])

/-- A world whose system has been asked to do something. -/
def World.withLog {σ : Type} (w : World σ) (log : List (Action × String)) :
    World (σ × List (Action × String)) :=
  ⟨w.files, w.system, log⟩

namespace Step

variable {σ : Type} {system : System σ} {w w' : World σ} {files files' : FileTree}

/-! ## One step -/

/-- A step asks once. It succeeds with the files that it settles for, or it fails and leaves the files as
they are. -/
theorem run_cases (system : System σ) (w : World σ) (step : Step) :
    ∃ answer s, system.perform step.request.1 step.request.2 w.system = (answer, s) ∧
      ((∃ files, step.settle w.files answer = .ok files ∧
          step.run system w = (.ok (), ⟨files, s⟩)) ∨
        ∃ e, step.run system w = (.error e, ⟨w.files, s⟩)) := by
  cases hanswer : system.perform step.request.1 step.request.2 w.system with
  | mk answer s =>
      refine ⟨answer, s, rfl, ?_⟩
      rw [run, hanswer]
      cases hsettle : step.settle w.files answer with
      | ok files =>
          simp only [hsettle]
          exact .inl ⟨files, rfl, rfl⟩
      | error e =>
          simp only [hsettle]
          exact .inr ⟨e, rfl⟩

theorem run_ok_iff {step : Step} :
    step.run system w = (.ok (), w') ↔
      ∃ answer s files, system.perform step.request.1 step.request.2 w.system = (answer, s) ∧
        step.settle w.files answer = .ok files ∧ w' = ⟨files, s⟩ := by
  constructor
  · intro h
    obtain ⟨answer, s, hanswer, ⟨files, hsettle, hrun⟩ | ⟨e, hrun⟩⟩ := run_cases system w step
    · exact ⟨answer, s, files, hanswer, hsettle, (Prod.mk.inj (h.symm.trans hrun)).2⟩
    · exact absurd (Prod.mk.inj (h.symm.trans hrun)).1 (by simp)
  · rintro ⟨answer, s, files, hanswer, hsettle, rfl⟩
    rw [run, hanswer]
    simp only [hsettle]

theorem settle_record_ok {answer : Except String State} {action : Action} {config path : String}
    (h : (record action config path).settle files answer = .ok files') :
    ∃ state, answer = .ok state ∧ Snapshot.save files path (Snapshot.ofState state) = .ok files' := by
  cases answer with
  | error message => exact absurd h (by simp [settle])
  | ok state => exact ⟨state, rfl, h⟩

theorem settle_diffRecord_ok {answer : Except String State} {config path : String}
    (h : (diffRecord config path).settle files answer = .ok files') :
    ∃ state old, answer = .ok state ∧ Snapshot.load files path = .ok old ∧
      Snapshot.save files path (Snapshot.diff old state) = .ok files' := by
  cases answer with
  | error message => exact absurd h (by simp [settle])
  | ok state =>
      obtain ⟨old, hold, hsave⟩ := bind_ok_iff.1 h
      exact ⟨state, old, rfl, hold, hsave⟩

/-- A step that fails leaves the files as they are. -/
theorem files_of_run_error {step : Step} {e : AcceptanceError}
    (h : step.run system w = (.error e, w')) : w'.files = w.files := by
  obtain ⟨answer, s, -, ⟨files, -, hrun⟩ | ⟨e', hrun⟩⟩ := run_cases system w step
  · exact absurd (Prod.mk.inj (h.symm.trans hrun)).1 (by simp)
  · rw [(Prod.mk.inj (h.symm.trans hrun)).2]

def written : Step → List (List Char)
  | check _ _ _ => []
  | record _ _ path => [path.toList]
  | diffRecord _ path => [path.toList]

/-- A step that settles for files leaves them as they are, or writes one of them. -/
theorem settle_ok_cases {step : Step} {answer : Except String State}
    (h : step.settle files answer = .ok files') :
    files' = files ∨
      ∃ path content, step.written = [path] ∧ files.write path content = .ok files' := by
  cases step with
  | check config expected checks =>
      obtain ⟨u, -, h⟩ := bind_ok_iff.1 h
      exact .inl (Except.ok.inj h).symm
  | record action config path =>
      obtain ⟨state, -, hsave⟩ := settle_record_ok h
      exact .inr ⟨_, _, rfl, Snapshot.save_ok hsave⟩
  | diffRecord config path =>
      obtain ⟨state, old, -, -, hsave⟩ := settle_diffRecord_ok h
      exact .inr ⟨_, _, rfl, Snapshot.save_ok hsave⟩

theorem onlyWrites_settle {step : Step} {answer : Except String State}
    (h : step.settle files answer = .ok files') : files.OnlyWrites step.written files' := by
  rcases settle_ok_cases h with rfl | ⟨path, content, hwritten, hwrite⟩
  · exact .refl _ _
  · rw [hwritten]
    exact .of_write hwrite

/-- A step that succeeds or fails writes nothing but its snapshot. -/
theorem onlyWrites_run (system : System σ) (w : World σ) (step : Step) :
    w.files.OnlyWrites step.written (step.run system w).2.files := by
  obtain ⟨answer, s, -, ⟨files, hsettle, hrun⟩ | ⟨e, hrun⟩⟩ := run_cases system w step
  · rw [hrun]
    exact onlyWrites_settle hsettle
  · rw [hrun]
    exact .refl _ _

theorem isProper_settle {step : Step} {answer : Except String State} (hproper : files.IsProper)
    (h : step.settle files answer = .ok files') : files'.IsProper := by
  rcases settle_ok_cases h with rfl | ⟨path, content, -, hwrite⟩
  · exact hproper
  · exact hproper.write hwrite

theorem isProper_run (system : System σ) (hproper : w.files.IsProper) (step : Step) :
    (step.run system w).2.files.IsProper := by
  obtain ⟨answer, s, -, ⟨files, hsettle, hrun⟩ | ⟨e, hrun⟩⟩ := run_cases system w step
  · rw [hrun]
    exact isProper_settle hproper hsettle
  · rw [hrun]
    exact hproper

/-! ## Several steps -/

theorem runAll_cons_ok_iff {step : Step} {rest : List Step} :
    runAll system w (step :: rest) = (.ok (), w') ↔
      ∃ v, step.run system w = (.ok (), v) ∧ runAll system v rest = (.ok (), w') := by
  rw [runAll]
  cases hrun : step.run system w with
  | mk result v =>
      cases result with
      | ok u =>
          constructor
          · intro h
            exact ⟨v, rfl, h⟩
          · rintro ⟨_, hv, h⟩
            obtain rfl := (Prod.mk.inj hv).2
            exact h
      | error e =>
          constructor
          · intro h
            exact absurd (Prod.mk.inj h).1 (by simp)
          · rintro ⟨_, hv, -⟩
            exact absurd (Prod.mk.inj hv).1 (by simp)

theorem runAll_append_ok_iff {steps more : List Step} :
    runAll system w (steps ++ more) = (.ok (), w') ↔
      ∃ v, runAll system w steps = (.ok (), v) ∧ runAll system v more = (.ok (), w') := by
  induction steps generalizing w with
  | nil =>
      constructor
      · intro h
        exact ⟨w, rfl, h⟩
      · rintro ⟨_, hv, h⟩
        obtain rfl := (Prod.mk.inj hv).2
        exact h
  | cons step steps ih =>
      rw [List.cons_append, runAll_cons_ok_iff]
      constructor
      · rintro ⟨v, hstep, h⟩
        obtain ⟨u, hsteps, hmore⟩ := ih.1 h
        exact ⟨u, runAll_cons_ok_iff.2 ⟨v, hstep, hsteps⟩, hmore⟩
      · rintro ⟨u, hsteps, hmore⟩
        obtain ⟨v, hstep, hsteps⟩ := runAll_cons_ok_iff.1 hsteps
        exact ⟨v, hstep, ih.2 ⟨u, hsteps, hmore⟩⟩

theorem runAll_append_error_iff {steps more : List Step} {e : AcceptanceError} :
    runAll system w (steps ++ more) = (.error e, w') ↔
      runAll system w steps = (.error e, w') ∨
        ∃ v, runAll system w steps = (.ok (), v) ∧ runAll system v more = (.error e, w') := by
  induction steps generalizing w with
  | nil =>
      constructor
      · exact fun h => .inr ⟨w, rfl, h⟩
      · rintro (h | ⟨_, hv, h⟩)
        · exact absurd (Prod.mk.inj h).1 (by simp)
        · obtain rfl := (Prod.mk.inj hv).2
          exact h
  | cons step steps ih =>
      rw [List.cons_append, runAll, runAll]
      cases hrun : step.run system w with
      | mk result v =>
          cases result with
          | ok u => exact ih
          | error e' => simp

/-- A run that fails succeeds up to a step, and fails there. -/
theorem exists_failed_of_runAll {steps : List Step} {e : AcceptanceError}
    (h : runAll system w steps = (.error e, w')) :
    ∃ before step after v, steps = before ++ step :: after ∧
      runAll system w before = (.ok (), v) ∧ step.run system v = (.error e, w') := by
  induction steps generalizing w with
  | nil => exact absurd (Prod.mk.inj h).1 (by simp)
  | cons step steps ih =>
      rw [runAll] at h
      cases hrun : step.run system w with
      | mk result v =>
          rw [hrun] at h
          cases result with
          | ok u =>
              obtain ⟨before, failed, after, u, rfl, hbefore, hfailed⟩ := ih h
              exact ⟨step :: before, failed, after, u, rfl,
                runAll_cons_ok_iff.2 ⟨v, hrun, hbefore⟩, hfailed⟩
          | error e' =>
              obtain ⟨he, rfl⟩ := Prod.mk.inj h
              exact ⟨[], step, steps, w, rfl, rfl, hrun.trans (by rw [he])⟩

theorem onlyWrites_runAll (system : System σ) (w : World σ) (steps : List Step) :
    w.files.OnlyWrites (steps.flatMap written) (runAll system w steps).2.files := by
  induction steps generalizing w with
  | nil => exact .refl _ _
  | cons step steps ih =>
      have hstep := onlyWrites_run system w step
      rw [runAll, List.flatMap_cons]
      cases hrun : step.run system w with
      | mk result v =>
          rw [hrun] at hstep
          cases result with
          | ok u => exact hstep.trans (ih v)
          | error e => exact hstep.mono (List.subset_append_left _ _)

theorem isProper_runAll (system : System σ) (hproper : w.files.IsProper) (steps : List Step) :
    (runAll system w steps).2.files.IsProper := by
  induction steps generalizing w with
  | nil => exact hproper
  | cons step steps ih =>
      have hstep := isProper_run system hproper step
      rw [runAll]
      cases hrun : step.run system w with
      | mk result v =>
          rw [hrun] at hstep
          cases result with
          | ok u => exact ih hstep
          | error e => exact hstep

/-! ## Requests -/

/-- A step asks once, whether it succeeds or fails, and keeping the request changes nothing else. -/
theorem run_logged (system : System σ) (w : World σ) (log : List (Action × String)) (step : Step) :
    step.run system.logged (w.withLog log) =
      ((step.run system w).1, (step.run system w).2.withLog (log ++ [step.request])) := by
  rw [run, run]
  simp only [System.logged, World.withLog]
  cases step.settle w.files (system.perform step.request.1 step.request.2 w.system).1 with
  | ok files => rfl
  | error e => rfl

theorem runAll_logged_ok {steps : List Step} (h : runAll system w steps = (.ok (), w'))
    (log : List (Action × String)) :
    runAll system.logged (w.withLog log) steps =
      (.ok (), w'.withLog (log ++ steps.map request)) := by
  induction steps generalizing w log with
  | nil =>
      obtain rfl := (Prod.mk.inj h).2
      rw [runAll, List.map_nil, List.append_nil]
  | cons step steps ih =>
      obtain ⟨v, hstep, h⟩ := runAll_cons_ok_iff.1 h
      rw [List.map_cons, List.append_cons]
      exact runAll_cons_ok_iff.2 ⟨_, by rw [run_logged, hstep], ih h _⟩

/-- A run asks for nothing behind the step that fails. -/
theorem runAll_logged_error {v : World σ} {e : AcceptanceError} {before after : List Step} {step : Step}
    (hbefore : runAll system w before = (.ok (), v)) (hfailed : step.run system v = (.error e, w'))
    (log : List (Action × String)) :
    runAll system.logged (w.withLog log) (before ++ step :: after) =
      (.error e, w'.withLog (log ++ (before ++ [step]).map request)) := by
  refine runAll_append_error_iff.2 (.inr ⟨_, runAll_logged_ok hbefore log, ?_⟩)
  rw [runAll, run_logged, hfailed, List.map_append, ← List.append_assoc]
  rfl

/-! ## Plans -/

theorem plan_nil (files : FileTree) (mode : RunMode) : plan files mode [] = .ok [] := rfl

theorem plan_cons_ok_iff {mode : RunMode} {f : Fixture} {fixtures : List Fixture}
    {steps : List Step} :
    plan files mode (f :: fixtures) = .ok steps ↔
      ∃ first more, ofFixture files mode f = .ok first ∧ plan files mode fixtures = .ok more ∧
        steps = first ++ more := by
  rw [plan, plan, List.mapM_cons]
  constructor
  · intro h
    obtain ⟨parts, hparts, h⟩ := bind_ok_iff.1 h
    obtain ⟨first, hfirst, hparts⟩ := bind_ok_iff.1 hparts
    obtain ⟨more, hmore, hparts⟩ := bind_ok_iff.1 hparts
    obtain rfl := Except.ok.inj hparts
    exact ⟨first, more.flatten, hfirst, bind_ok_iff.2 ⟨more, hmore, rfl⟩, (Except.ok.inj h).symm⟩
  · rintro ⟨first, more, hfirst, h, rfl⟩
    obtain ⟨parts, hparts, h⟩ := bind_ok_iff.1 h
    obtain rfl := Except.ok.inj h
    rw [hfirst, hparts]
    rfl

theorem plan_error_iff {mode : RunMode} {fixtures : List Fixture} {e : AcceptanceError} :
    plan files mode fixtures = .error e ↔ fixtures.mapM (ofFixture files mode) = .error e := by
  rw [plan, bind_error_iff]
  simp

theorem plan_record (files : FileTree) (fixtures : List Fixture) :
    plan files .record fixtures = .ok (fixtures.flatMap recording) := by
  induction fixtures with
  | nil => rfl
  | cons f fixtures ih =>
      exact plan_cons_ok_iff.2 ⟨recording f, fixtures.flatMap recording, rfl, ih, List.flatMap_cons⟩

end Step

end AttributeSchema
