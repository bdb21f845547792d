import AttributeSchema.Descriptor.Basic
import AttributeSchema.Json.Value
/-!
# Descriptors as JSON

A descriptor is an object. The entry `kind` names its kind and the entry `of` says more about it, where
there is more to say; the entry `fields` is left out when there are none.
-/

namespace AttributeSchema

def OpaqueKind.name : OpaqueKind → String
  | duration => "duration"
  | timestamp => "timestamp"

mutual

def Kind.entries : Kind → List (String × Json.Value)
  | .bool => [("kind", .string "bool")]
  | .integer kind => [("kind", .string "integer"), ("of", .string kind.name)]
  | .string => [("kind", .string "string")]
  | .encoded kind => [("kind", .string "opaque"), ("of", .string kind.name)]
  | .struct => [("kind", .string "struct")]
  | .optional inner => [("kind", .string "optional"), ("of", inner.toJson)]
  | .sequence item => [("kind", .string "sequence"), ("of", item.toJson)]
  | .mapping key value => [("kind", .string "mapping"), ("of", .array [key.toJson, value.toJson])]

def Descriptor.toJson : Descriptor → Json.Value
  | .mk name path kind fields =>
    .object ([("name", .string name), ("path", .string path)] ++ kind.entries ++
      match fields with
      | [] => []
      | f :: rest => [("fields", .array (f.toJson :: Field.toJsonList rest))])

def Field.toJson : Field → Json.Value
  | .mk name type tag =>
    .object [("name", .string name), ("ty", type.toJson), ("tag", .string tag)]

def Field.toJsonList : List Field → List Json.Value
  | [] => []
  | f :: rest => f.toJson :: Field.toJsonList rest

end

def GenerationUnit.toJson (u : GenerationUnit) : Json.Value :=
  .object
    [("name", .string u.name), ("imports", .strings u.imports), ("object", u.object.toJson),
      ("depends_on", .array (u.dependsOn.map Descriptor.toJson))]

end AttributeSchema
