import AttributeSchema.Acceptance.Error
import AttributeSchema.Json.Maps
/-!
# States and snapshots

A state gives the attributes of named resources. A snapshot is what is kept of a state: the value of
each attribute, or only that it has one, where two observations differ. The attribute that counts the
others is left out.
-/

namespace AttributeSchema

structure State where
  resources : SortedMap (SortedMap String)
  deriving DecidableEq, Repr, Inhabited

namespace State

/-- The state with some resources, of which a later one replaces an earlier one of the same name. -/
def ofResources (resources : List (String × List (String × String))) : State :=
  ⟨.ofList (resources.map fun (name, attributes) => (name, .ofList attributes))⟩

def value? (s : State) (resource name : String) : Option String :=
  (s.resources.get? resource).bind fun attributes => attributes.get? name

end State

structure Snapshot where
  resources : SortedMap (SortedMap String)
  deriving DecidableEq, Repr, Inhabited

namespace Snapshot

/-- The value that stands for any value but the empty one. -/
def presentOnly : String := "set()"

def countAttribute : String := "%"

def empty : Snapshot := ⟨.empty⟩

/-- Keeps of each attribute of a state what a function of its resource, name and value gives. -/
def observe (state : State) (keep : String → String → String → String) : Snapshot where
  resources := state.resources.map fun resource attributes =>
    (attributes.filter fun name _ => name != countAttribute).map (keep resource)

def ofState (state : State) : Snapshot := observe state fun _ _ value => value

def get? (s : Snapshot) (resource name : String) : Option String :=
  (s.resources.get? resource).bind fun attributes => attributes.get? name

/-- Keeps the values that an older snapshot has too, and of the other ones that they are present. -/
def diff (old : Snapshot) (state : State) : Snapshot :=
  observe state fun resource name value =>
    if old.get? resource name = some value then value else presentOnly

def isEmpty (s : Snapshot) : Bool := s.resources.isEmpty

/-- All attributes with their resources and values, in the order of resources and names. -/
def entries (s : Snapshot) : List (String × String × String) :=
  s.resources.entries.flatMap fun (resource, attributes) =>
    attributes.entries.map fun (name, value) => (resource, name, value)

/-! ### Snapshots in files -/

def toJson (s : Snapshot) : Json.Value :=
  .object (s.resources.entries.map fun (resource, attributes) =>
    (resource, .object (attributes.entries.map fun (name, value) =>
      (name, .string value))))

def text (s : Snapshot) : String := Json.pretty 4 s.toJson

def ofText (text : List Char) : Except String Snapshot :=
  (Json.whole (Json.mapOf (Json.mapOf Json.text)) text).map Snapshot.mk

def readText (files : FileTree) (path : String) : Except FileError (List Char) := do
  match Text.Utf8.decode? (← files.read path.toList) with
  | some text => .ok text
  | none => .error .noText

/-- Reads the snapshot in a file; a file that does not exist has an empty one. -/
def load (files : FileTree) (path : String) : Except AcceptanceError Snapshot :=
  match readText files path with
  | .ok text =>
    match ofText text with
    | .ok s => .ok s
    | .error detail => .error (.snapshot path detail)
  | .error .notFound => .ok empty
  | .error e => .error (.files path e)

def save (files : FileTree) (path : String) (s : Snapshot) : Except AcceptanceError FileTree :=
  match files.write path.toList (Text.Utf8.encode s.text.toList) with
  | .ok files => .ok files
  | .error e => .error (.files path e)

end Snapshot

end AttributeSchema
