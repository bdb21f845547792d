import AttributeSchema.Acceptance.Check
import AttributeSchema.Acceptance.Fixture
import AttributeSchema.Acceptance.Mode
/-!
# Steps of an acceptance run

To replay a fixture is to apply it and to check the state by the snapshot, or the error by the pattern.
To record it takes three steps: it is applied and the state is kept, it is destroyed and the state is
kept, and it is applied again and what differs is kept as present only. Fixtures that expect an error
are not recorded. A run stops at the first step that fails.
-/

namespace AttributeSchema

inductive Action
  | apply
  | destroy
  deriving DecidableEq, Repr, Inhabited

/-- The system under test, over states of its own. It answers with the state of the resources, or with
the message of an error. -/
structure System (σ : Type) where
  perform : Action → String → σ → Except String State × σ

inductive Step
  | check (config : String) (expected : Option Pattern) (checks : List Check)
  | record (action : Action) (config snapshotPath : String)
  /-- Apply and keep what has not changed. -/
  | diffRecord (config snapshotPath : String)
  deriving DecidableEq, Repr, Inhabited

structure World (σ : Type) where
  files : FileTree
  system : σ
  deriving Repr

namespace Step

def replaying (files : FileTree) (f : Fixture) : Except AcceptanceError (List Step) := do
  let snapshot ← Snapshot.load files f.snapshotPath
  .ok [check f.config f.expected snapshot.checks]

def recording (f : Fixture) : List Step :=
  if f.expected.isSome then []
  else
    [record .apply f.config f.snapshotPath, record .destroy f.config f.snapshotPath,
      diffRecord f.config f.snapshotPath]

def ofFixture (files : FileTree) : RunMode → Fixture → Except AcceptanceError (List Step)
  | .replay, f => replaying files f
  | .record, f => .ok (recording f)

def plan (files : FileTree) (mode : RunMode) (fixtures : List Fixture) :
    Except AcceptanceError (List Step) := do
  .ok (← fixtures.mapM (ofFixture files mode)).flatten

def judge (expected : Option Pattern) (checks : List Check) :
    Except String State → Except AcceptanceError Unit
  | .ok state =>
    match expected with
    | none => Check.verifyAll checks state
    | some pattern => .error (.missingError pattern.text)
  | .error message =>
    match expected with
    | none => .error (.system message)
    | some pattern =>
      if pattern.matchesIn message then .ok ()
      else .error (.unexpectedError pattern.text message)

def settle (files : FileTree) (answer : Except String State) :
    Step → Except AcceptanceError FileTree
  | check _ expected checks => do
    judge expected checks answer
    .ok files
  | record _ _ path =>
    match answer with
    | .error message => .error (.system message)
    | .ok state => Snapshot.save files path (Snapshot.ofState state)
  | diffRecord _ path =>
    match answer with
    | .error message => .error (.system message)
    | .ok state => do
      let old ← Snapshot.load files path
      Snapshot.save files path (Snapshot.diff old state)

def request : Step → Action × String
  | check config _ _ => (.apply, config)
  | record action config _ => (action, config)
  | diffRecord config _ => (.apply, config)

/-- Runs a step; the files stay as they are if it fails. -/
def run {σ : Type} (system : System σ) (w : World σ) (step : Step) :
    Except AcceptanceError Unit × World σ :=
  let (answer, s) := system.perform step.request.1 step.request.2 w.system
  match step.settle w.files answer with
  | .ok files => (.ok (), ⟨files, s⟩)
  | .error e => (.error e, ⟨w.files, s⟩)

def runAll {σ : Type} (system : System σ) (w : World σ) :
    List Step → Except AcceptanceError Unit × World σ
  | [] => (.ok (), w)
  | step :: rest =>
    match step.run system w with
    | (.ok _, w) => runAll system w rest
    | (.error e, w) => (.error e, w)

end Step

end AttributeSchema
