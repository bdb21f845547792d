import AttributeSchema.Acceptance.Snapshot
/-!
# Checks of states

A snapshot asks for each of its attributes that a state has the same value, or some value where only
that was kept.
-/

namespace AttributeSchema

inductive Check
  /-- The attribute has a value that is not empty. -/
  | present (resource name : String)
  | equals (resource name value : String)
  deriving DecidableEq, Repr, Inhabited

namespace Check

def place (resource name : String) : String := resource ++ "." ++ name

def failure? (state : State) : Check → Option String
  | present resource name =>
    match state.value? resource name with
    | some value =>
      if value.isEmpty then some (place resource name ++ ": expected to be set") else none
    | none => some (place resource name ++ ": expected to be set")
  | equals resource name value =>
    match state.value? resource name with
    | some actual =>
      if actual = value then none
      else some (place resource name ++ ": expected '" ++ value ++ "', got '" ++ actual ++ "'")
    | none => some (place resource name ++ ": expected '" ++ value ++ "', not set")

def text : Check → String
  | present resource name => place resource name ++ " is set"
  | equals resource name value => place resource name ++ " == '" ++ value ++ "'"

def ofEntry : String × String × String → Check
  | (resource, name, value) =>
    if value = Snapshot.presentOnly then present resource name
    else equals resource name value

/-- Whether a state meets all checks; the error has every one that it does not meet. -/
def verifyAll (checks : List Check) (state : State) : Except AcceptanceError Unit :=
  match checks.filterMap (failure? state) with
  | [] => .ok ()
  | failures => .error (.checksFailed failures)

end Check

def Snapshot.checks (s : Snapshot) : List Check := s.entries.map Check.ofEntry

end AttributeSchema
