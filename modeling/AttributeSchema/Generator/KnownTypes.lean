import AttributeSchema.Descriptor.Basic
import AttributeSchema.Generator.Error
import AttributeSchema.Generator.Naming
import AttributeSchema.SortedMap
/-!
# The registry of known types

Nested attributes refer to types on which some unit depends. The registry maps the name of each such type
to its unit. No two types of all units may generate the same schema function.
-/

namespace AttributeSchema

/-- The types on which units depend, each with the unit that declares it. -/
structure KnownTypes where
  owners : SortedMap String
  deriving DecidableEq, Repr, Inhabited

namespace KnownTypes

def empty : KnownTypes := ⟨.empty⟩

def contains (k : KnownTypes) (name : String) : Bool := k.owners.contains name

def owner? (k : KnownTypes) (name : String) : Option String := k.owners.get? name

def names (k : KnownTypes) : List String := k.owners.keys

def size (k : KnownTypes) : Nat := k.owners.size

def isEmpty (k : KnownTypes) : Bool := k.owners.isEmpty

def declared (units : List GenerationUnit) : List (String × String) :=
  units.flatMap fun u => u.types.map fun t => (t.name, u.name)

/-- Looks for a type whose schema function an earlier one has; `seen` maps the functions of the earlier
types to their units. -/
def checkDistinct (seen : SortedMap String) : List (String × String) → Except GeneratorError Unit
  | [] => .ok ()
  | (type, unit) :: rest =>
    match seen.get? (Naming.attributesName type) with
    | some first => .error (.duplicateType type first unit)
    | none => checkDistinct (seen.insert (Naming.attributesName type) unit) rest

def dependencies (units : List GenerationUnit) : List (String × String) :=
  units.flatMap fun u => u.dependsOn.map fun t => (t.name, u.name)

def build (units : List GenerationUnit) : Except GeneratorError KnownTypes :=
  match checkDistinct .empty (declared units) with
  | .error e => .error e
  | .ok _ => .ok ⟨.ofList (dependencies units)⟩

end KnownTypes

end AttributeSchema
