import AttributeSchema.Generator.RootModule
import AttributeSchema.Generator.UnitModule
import AttributeSchema.Generator.Validation
import AttributeSchema.Source.Fault
/-!
# Generated files

Units give a file each and one file above all of them. Either all files are generated or none.
-/

namespace AttributeSchema

open Source (File)

structure Artifact where
  name : String
  content : String
  deriving DecidableEq, Repr, Inhabited

namespace Artifact

def notice : String :=
  "// This code was automatically generated by attrgen-gen. Do not edit manually."

def ofFile (name : String) (file : File) : Except GeneratorError Artifact :=
  match file.fault? with
  | some reason => .error (.formatting name reason)
  | none => .ok ⟨name, notice ++ "\n\n" ++ file.text⟩

def fileName (module : String) : String := module ++ ".rs"

def ofUnit (known : KnownTypes) (u : GenerationUnit) : Except GeneratorError Artifact := do
  ofFile (fileName u.name) (← UnitModule.ofUnit known u).file

def root (units : List GenerationUnit) : Except GeneratorError Artifact := do
  ofFile (fileName Validation.reservedName) (← RootModule.ofUnits units).file

/-- The artifacts of units in their order, and the one above them last. -/
def generate (units : List GenerationUnit) : Except GeneratorError (List Artifact) := do
  Validation.check units
  let known ← KnownTypes.build units
  let modules ← units.mapM (ofUnit known)
  let root ← root units
  return modules ++ [root]

def printed (artifacts : List Artifact) : String :=
  String.join (artifacts.map fun a => "=== " ++ a.name ++ " ===\n" ++ a.content ++ "\n\n")

end Artifact

end AttributeSchema
