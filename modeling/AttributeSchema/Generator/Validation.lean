import AttributeSchema.Descriptor.Basic
import AttributeSchema.Generator.Spelled
/-!
# Checking the list of units

There has to be a unit, and the name of each must be an identifier, free, and given once: it becomes the
name of a module and of a file.
-/

namespace AttributeSchema.Validation

def reservedName : String := "lib"

/-- Checks the names of units behind those of `seen`. -/
def checkNames (seen : List String) : List GenerationUnit → Except GeneratorError Unit
  | [] => .ok ()
  | u :: rest => do
    let _ ← Spelled.identifier u.name "unit name"
    if u.name = reservedName then
      .error (.configuration
        ("unit name '" ++ reservedName ++ "' is reserved for the aggregate registry"))
    else if u.name ∈ seen then .error (.configuration ("duplicate unit name '" ++ u.name ++ "'"))
    else checkNames (u.name :: seen) rest

def check (units : List GenerationUnit) : Except GeneratorError Unit :=
  if units.isEmpty then .error (.configuration "no generation units to process")
  else checkNames [] units

end AttributeSchema.Validation
