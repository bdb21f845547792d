import AttributeSchema.Generator.Mapping
import AttributeSchema.Generator.Spelled
import AttributeSchema.Source.Construct
import AttributeSchema.Source.Item
/-!
# Schema functions

A schema function gives the attributes of a type: for each tagged field the tag and the type of its
attribute, in the order of the fields. Nested attributes call the schema function of the nested type.
-/

namespace AttributeSchema

open Source (Expr Ty Stmt Item FunctionItem)

/-- The type that a schema function gives to an attribute; a nested one names the function that gives
the nested attributes. -/
inductive EntryType
  | leaf (type : LeafType)
  | nested (function : String)
  | nestedList (function : String)
  deriving DecidableEq, Repr, Inhabited

structure SchemaEntry where
  tag : String
  type : EntryType
  deriving DecidableEq, Repr, Inhabited

structure SchemaFunction where
  path : String
  /-- Whether other packages see the function. -/
  isPublic : Bool
  name : String
  entries : List SchemaEntry
  deriving DecidableEq, Repr, Inhabited

namespace EntryType

def functionName (type : String) : Except GeneratorError String :=
  Spelled.identifier (Naming.attributesName type) ("schema function of type '" ++ type ++ "'")

def ofMapped : MappedType → Except GeneratorError EntryType
  | .leaf type => .ok (.leaf type)
  | .nested name => (functionName name).map .nested
  | .nestedList name => (functionName name).map .nestedList

def leafWord : LeafType → String
  | .bool => "Bool"
  | .number => "Number"
  | .string => "String"
  | .listOfString => "ListOfString"
  | .mapOfStringToString => "MapOfStringToString"

def typeNames (word : String) : List String := ["attrgen", "AttributeType", word]

def expr : EntryType → Expr
  | leaf type => .ofNames (typeNames (leafWord type))
  | nested function => .invoke (typeNames "SingleNested") [.invoke [function] []]
  | nestedList function => .invoke (typeNames "ListNested") [.invoke [function] []]

end EntryType

namespace SchemaEntry

def ofMapped (f : MappedField) : Except GeneratorError SchemaEntry :=
  (EntryType.ofMapped f.type).map (⟨f.tag, ·⟩)

def expr (e : SchemaEntry) : Expr :=
  .tuple [.ofText e.tag, .invoke ["attrgen", "Attribute", "optional"] [e.type.expr]] false

end SchemaEntry

namespace SchemaFunction

def ofType (unit : String) (d : Descriptor) (fields : List MappedField) (isPublic : Bool) :
    Except GeneratorError SchemaFunction :=
  if fields.isEmpty then .error (.emptySchema unit d.name)
  else do
    let name ← EntryType.functionName d.name
    let entries ← fields.mapM SchemaEntry.ofMapped
    return ⟨d.path, isPublic, name, entries⟩

def item (f : SchemaFunction) : Item :=
  .function
    { attributes := [.doc (" Attributes of \x60" ++ f.path ++ "\x60.")]
      visibility := if f.isPublic then .everyone else .package
      name := f.name
      hasReceiver := false
      parameters := []
      result := .ofNames ["attrgen", "Attributes"]
      body :=
        [.result (.invoke ["attrgen", "Attributes", "from"]
          [.array (f.entries.map SchemaEntry.expr) false])] }

end SchemaFunction

end AttributeSchema
