import AttributeSchema.Attribute.Conversion
import AttributeSchema.Generator.KnownTypes
/-!
# Mapping fields to attributes

Every tagged field is mapped to the type of its attribute and to the conversion that carries its value.
The rules are tried in order: texts of opaque values, collections of texts, a known type, a known type
that may be absent, a list of a known type, and plain values.
-/

namespace AttributeSchema

/-- The type of a mapped attribute; nested ones name a known type. -/
inductive MappedType
  | leaf (type : LeafType)
  | nested (name : String)
  | nestedList (name : String)
  deriving DecidableEq, Repr, Inhabited

def MappedType.nested? : MappedType → Option String
  | leaf _ => none
  | nested name => some name
  | nestedList name => some name

/-- How a value moves between the native field and its attribute. -/
inductive Conversion
  | leaf (conversion : LeafConversion)
  | nested (isOptional : Bool)
  | nestedList (hasOptionalItems : Bool)
  deriving DecidableEq, Repr, Inhabited

def Conversion.mayReport : Conversion → Bool
  | leaf (.integer _) => true
  | leaf .duration => true
  | leaf .timestamp => true
  | leaf _ => false
  | nested _ => true
  | nestedList _ => true

structure MappedField where
  name : String
  tag : String
  type : MappedType
  conversion : Conversion
  deriving DecidableEq, Repr, Inhabited

namespace Mapping

def plain (conversion : LeafConversion) : MappedType × Conversion :=
  (.leaf conversion.type, .leaf conversion)

def opaqueRule : Kind → Option (MappedType × Conversion)
  | .encoded .duration => some (plain .duration)
  | .encoded .timestamp => some (plain .timestamp)
  | .sequence item =>
    match item.kind with
    | .integer .u8 => some (plain .bytes)
    | _ => none
  | _ => none

def textsRule : Kind → Option (MappedType × Conversion)
  | .sequence item =>
    match item.kind with
    | .string => some (plain .stringList)
    | _ => none
  | .mapping key value =>
    match key.kind, value.kind with
    | .string, .string => some (plain .stringMap)
    | _, _ => none
  | _ => none

def knownRule (known : KnownTypes) (d : Descriptor) : Option (MappedType × Conversion) :=
  if known.contains d.name then some (.nested d.name, .nested false) else none

def optionalRule (known : KnownTypes) : Kind → Option (MappedType × Conversion)
  | .optional inner =>
    if known.contains inner.name then some (.nested inner.name, .nested true) else none
  | _ => none

def listRule (known : KnownTypes) : Kind → Option (MappedType × Conversion)
  | .sequence item =>
    if known.contains item.name then some (.nestedList item.name, .nestedList false)
    else
      match item.kind with
      | .optional inner =>
        if known.contains inner.name then some (.nestedList inner.name, .nestedList true) else none
      | _ => none
  | _ => none

def plainRule : Kind → Option (MappedType × Conversion)
  | .bool => some (plain .bool)
  | .integer kind => some (plain (.integer kind))
  | .string => some (plain .text)
  | _ => none

/-- The attribute for a native type, by the first rule that applies. -/
def ofType? (known : KnownTypes) (d : Descriptor) : Option (MappedType × Conversion) :=
  (opaqueRule d.kind).or <| (textsRule d.kind).or <| (knownRule known d).or <|
    (optionalRule known d.kind).or <| (listRule known d.kind).or <| plainRule d.kind

def ofField (unit : String) (known : KnownTypes) (f : Field) : Except GeneratorError MappedField :=
  match ofType? known f.type with
  | some (type, conversion) => .ok ⟨f.name, f.tag, type, conversion⟩
  | none => .error (.mapping unit f.name f.type.name)

def ofFields (unit : String) (known : KnownTypes) (d : Descriptor) :
    Except GeneratorError (List MappedField) :=
  d.taggedFields.mapM (ofField unit known)

end Mapping

end AttributeSchema
