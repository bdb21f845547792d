import AttributeSchema.IntKind
/-!
# Type descriptors

A descriptor is a table for one native type: the name that it is known by, the path by which source text
refers to it, its kind, and the fields of a struct. A field with a tag takes part in generation under
that tag. A generation unit is a primary type with the types that it depends on.
-/

namespace AttributeSchema

/-- Values without structure, which travel as texts. -/
inductive OpaqueKind
  | duration
  | timestamp
  deriving DecidableEq, Repr, Inhabited

mutual

inductive Kind
  | bool
  | integer (kind : IntKind)
  | string
  | encoded (kind : OpaqueKind)
  | struct
  | optional (inner : Descriptor)
  | sequence (item : Descriptor)
  | mapping (key value : Descriptor)
  deriving Repr

inductive Descriptor
  | mk (name path : String) (kind : Kind) (fields : List Field)
  deriving Repr

/-- A field of a struct; an empty tag excludes it from generation. -/
inductive Field
  | mk (name : String) (type : Descriptor) (tag : String)
  deriving Repr

end

instance : Inhabited Kind := ⟨.bool⟩
instance : Inhabited Descriptor := ⟨.mk "" "" .bool []⟩
instance : Inhabited Field := ⟨.mk "" default ""⟩

namespace Field

def name : Field → String
  | mk name _ _ => name

def type : Field → Descriptor
  | mk _ type _ => type

def tag : Field → String
  | mk _ _ tag => tag

def isTagged (f : Field) : Bool := !f.tag.isEmpty

end Field

namespace Descriptor

def name : Descriptor → String
  | mk name _ _ _ => name

def path : Descriptor → String
  | mk _ path _ _ => path

def kind : Descriptor → Kind
  | mk _ _ kind _ => kind

def fields : Descriptor → List Field
  | mk _ _ _ fields => fields

def taggedFields (d : Descriptor) : List Field := d.fields.filter Field.isTagged

def scalar (name : String) (kind : Kind) : Descriptor := mk name name kind []

def ofFields (name path : String) (fields : List Field) : Descriptor := mk name path .struct fields

end Descriptor

/-- A primary type and the types that it depends on, generated as one module. -/
structure GenerationUnit where
  name : String
  imports : List String
  object : Descriptor
  dependsOn : List Descriptor
  deriving Repr, Inhabited

def GenerationUnit.types (u : GenerationUnit) : List Descriptor := u.object :: u.dependsOn

end AttributeSchema
