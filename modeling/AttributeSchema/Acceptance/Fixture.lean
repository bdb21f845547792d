import AttributeSchema.Acceptance.Snapshot
import AttributeSchema.Pattern.Reader
/-!
# Fixtures

A fixture is a file with a configuration. Its snapshot has the same path with another extension. A line
of the configuration may say by a pattern which error the configuration has to lead to.
-/

namespace AttributeSchema

structure Fixture where
  configPath : String
  snapshotPath : String
  config : String
  /-- The error that the configuration has to lead to. -/
  expected : Option Pattern
  deriving DecidableEq, Repr, Inhabited

namespace Fixture

def configExtension : String := "tf"

def snapshotExtension : String := "json"

def stripStart : List Char → List Char → Option (List Char)
  | [], s => some s
  | _ :: _, [] => none
  | c :: word, d :: rest => if c = d then stripStart word rest else none

/-- The value of a name in a comment line; an empty value is none. -/
def lineValue? (name line : List Char) : Option (List Char) := do
  let comment ← stripStart ['#'] (Text.trim line)
  let value := Text.trim (← stripStart (name ++ [':']) (Text.trimStart comment))
  if value.isEmpty then none else some value

/-- The value of a name in the first comment line that gives it one. -/
def valueOf? (name config : String) : Option String :=
  ((Text.lines config.toList).findSome? (lineValue? name.toList)).map String.ofList

def expected? (path config : String) : Except AcceptanceError (Option Pattern) :=
  match valueOf? "Error" config with
  | none => .ok none
  | some text =>
    match Pattern.ofText? text with
    | some pattern => .ok (some pattern)
    | none => .error (.pattern path)

def snapshotPathOf (path : String) : String :=
  String.ofList (PathText.withExtension path.toList snapshotExtension.toList)

def load (files : FileTree) (path : String) : Except AcceptanceError Fixture :=
  match Snapshot.readText files path with
  | .error e => .error (.files path e)
  | .ok text => do
    let config := String.ofList text
    let expected ← expected? path config
    .ok ⟨path, snapshotPathOf path, config, expected⟩

def isConfigName (name : String) : Bool :=
  PathText.extension? name.toList == some configExtension.toList

def inOrder (names : List String) : List String := names.mergeSort fun a b => decide (a ≤ b)

def paths (files : FileTree) (directory : String) : Except AcceptanceError (List String) :=
  match files.names directory.toList with
  | .error e => .error (.files directory e)
  | .ok names =>
    match inOrder (names.filter isConfigName) with
    | [] => .error (.noFixtures directory)
    | found =>
      .ok (found.map fun name => String.ofList (PathText.join directory.toList name.toList))

def discover (files : FileTree) (directory : String) : Except AcceptanceError (List Fixture) := do
  (← paths files directory).mapM (load files)

end Fixture

end AttributeSchema
