import AttributeSchema.Generator.SchemaFunction
/-!
# The module above all units

It declares a module for each unit and a function that gives the schema of every unit by the unit's name.
-/

namespace AttributeSchema

open Source (Expr Ty Item File)

structure UnitEntry where
  unit : String
  /-- The identifier of the unit's module. -/
  module : String
  /-- The schema function of the primary type. -/
  function : String
  deriving DecidableEq, Repr, Inhabited

structure RootModule where
  entries : List UnitEntry
  deriving DecidableEq, Repr, Inhabited

namespace RootModule

def entryOf (u : GenerationUnit) : Except GeneratorError UnitEntry := do
  let module ← Spelled.identifier u.name "unit name"
  let function ← Spelled.identifier (Naming.attributesName u.object.name)
    ("schema function of unit '" ++ u.name ++ "'")
  return ⟨u.name, module, function⟩

def ofUnits (units : List GenerationUnit) : Except GeneratorError RootModule :=
  (units.mapM entryOf).map RootModule.mk

def mapNames : List String := ["std", "collections", "BTreeMap"]

def schemasType : Ty :=
  .path false
    [.plain "std", .plain "collections",
      .angle "BTreeMap" false
        [.type (.reference (some "'static") false (.ofNames ["str"])),
          .type (.ofNames ["attrgen", "Schema"])] false]

def schemaEntry (e : UnitEntry) : Expr :=
  .tuple
    [.ofText e.unit,
      .invoke ["attrgen", "Schema", "new"] [.invoke [e.module, e.function] []]] false

def file (m : RootModule) : File where
  docs :=
    [" Attribute schemas and holders generated by attrgen-gen.", "",
      " Each generation unit is a module holding its schema functions and",
      " holder types; [\x60schemas\x60] collects every unit's schema by name."]
  items :=
    m.entries.map (fun e => .module e.module) ++
      [.function
        { attributes := [.doc " Every unit's schema, keyed by unit name."]
          visibility := .everyone
          name := "schemas"
          hasReceiver := false
          parameters := []
          result := schemasType
          body :=
            [.result (.invoke (mapNames ++ ["from"])
              [.array (m.entries.map schemaEntry) false])] }]

end RootModule

end AttributeSchema
