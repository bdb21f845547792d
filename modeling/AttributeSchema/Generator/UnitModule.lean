import AttributeSchema.Generator.HolderType
import AttributeSchema.Generator.SchemaFunction
/-!
# Modules of units

The module of a unit has a schema function and a holder for each type of the unit. It imports the paths
that the unit asks for, and for each nested type of another unit the holder and the schema function.
-/

namespace AttributeSchema

open Source (Path Item File)

structure ForeignTypes where
  owner : String
  /-- For each type its holder and its schema function. -/
  names : List (String × String)
  deriving DecidableEq, Repr, Inhabited

structure UnitModule where
  unit : String
  imports : List Path
  foreign : List ForeignTypes
  functions : List SchemaFunction
  holders : List HolderType

namespace UnitModule

def foreignNested (unit : String) (known : KnownTypes) (fields : List MappedField) :
    List (String × String) :=
  fields.filterMap fun f => do
    let name ← f.type.nested?
    let owner ← known.owner? name
    if owner = unit then none else some (owner, name)

def addForeign (groups : SortedMap (SortedMap Unit)) (e : String × String) :
    SortedMap (SortedMap Unit) :=
  groups.insert e.1 (((groups.get? e.1).getD .empty).insert e.2 ())

/-- Types in the order of their owners and names, each once. -/
def grouped (types : List (String × String)) : SortedMap (SortedMap Unit) :=
  types.foldl addForeign .empty

def importContext (unit : String) : String := "import of unit '" ++ unit ++ "'"

def foreignNames (unit name : String) : Except GeneratorError (String × String) := do
  let holder ← Spelled.identifier name (importContext unit)
  let function ← Spelled.identifier (Naming.attributesName name) (importContext unit)
  return (holder, function)

def foreignOf (unit : String) (group : String × SortedMap Unit) :
    Except GeneratorError ForeignTypes := do
  let owner ← Spelled.identifier group.1 (importContext unit)
  let names ← group.2.keys.mapM (foreignNames unit)
  return ⟨owner, names⟩

structure TypeParts where
  fields : List MappedField
  function : SchemaFunction
  holder : HolderType

/-- The schema function and the holder of a type; those of the primary type are public. -/
def typeParts (unit : String) (known : KnownTypes) (isPrimary : Bool) (d : Descriptor) :
    Except GeneratorError TypeParts := do
  let fields ← Mapping.ofFields unit known d
  let function ← SchemaFunction.ofType unit d fields isPrimary
  let holder ← HolderType.ofType d fields
  return ⟨fields, function, holder⟩

/-- What a unit's module has for each type, the primary one first. -/
def allParts (known : KnownTypes) (u : GenerationUnit) : Except GeneratorError (List TypeParts) := do
  let primary ← typeParts u.name known true u.object
  let others ← u.dependsOn.mapM (typeParts u.name known false)
  return primary :: others

def ofUnit (known : KnownTypes) (u : GenerationUnit) : Except GeneratorError UnitModule := do
  let parts ← allParts known u
  let imports ← u.imports.mapM fun path => Spelled.path path (importContext u.name)
  let nested := foreignNested u.name known (parts.flatMap TypeParts.fields)
  let foreign ← (grouped nested).entries.mapM (foreignOf u.name)
  return ⟨u.name, imports, foreign, parts.map TypeParts.function, parts.map TypeParts.holder⟩

def foreignItem (types : ForeignTypes) : Item :=
  .importGroup types.owner (types.names.flatMap fun (holder, function) => [holder, function])

def file (m : UnitModule) : File where
  docs := [" Attribute schemas and holders for the \x60" ++ m.unit ++ "\x60 unit."]
  items :=
    m.imports.map .import ++ m.foreign.map foreignItem ++ m.functions.map SchemaFunction.item ++
      m.holders.flatMap HolderType.items

end UnitModule

end AttributeSchema
