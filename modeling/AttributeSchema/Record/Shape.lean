import AttributeSchema.Attribute.Conversion
import AttributeSchema.Attribute.Schema
/-!
# Shapes of records

The shape of a native record lists its fields in order. From the shape follow the type of the native
records, the type of the holders with their nullable attributes, and the published attributes.
-/

namespace AttributeSchema

inductive Shape
  | done
  | leaf (name : String) (conversion : LeafConversion) (rest : Shape)
  /-- A field without an attribute. -/
  | untagged (name : String) (conversion : LeafConversion) (rest : Shape)
  | nested (name record : String) (inner rest : Shape)
  | optional (name record : String) (inner rest : Shape)
  | list (name record : String) (inner rest : Shape)
  deriving Repr, Inhabited

namespace Shape

abbrev Native : Shape → Type
  | done => Unit
  | leaf _ conversion rest => conversion.Native × rest.Native
  | untagged _ conversion rest => conversion.Native × rest.Native
  | nested _ _ inner rest => inner.Native × rest.Native
  | optional _ _ inner rest => Option inner.Native × rest.Native
  | list _ _ inner rest => List inner.Native × rest.Native

/-- The holders of a shape: every attribute may be null. -/
abbrev Holder : Shape → Type
  | done => Unit
  | leaf _ conversion rest => Option conversion.type.Carrier × rest.Holder
  | untagged _ _ rest => rest.Holder
  | nested _ _ inner rest => Option inner.Holder × rest.Holder
  | optional _ _ inner rest => Option inner.Holder × rest.Holder
  | list _ _ inner rest => Option (List inner.Holder) × rest.Holder

def nativeEq : (s : Shape) → DecidableEq s.Native
  | done => inferInstanceAs (DecidableEq Unit)
  | leaf _ conversion rest =>
    have := rest.nativeEq
    inferInstanceAs (DecidableEq (conversion.Native × rest.Native))
  | untagged _ conversion rest =>
    have := rest.nativeEq
    inferInstanceAs (DecidableEq (conversion.Native × rest.Native))
  | nested _ _ inner rest =>
    have := inner.nativeEq
    have := rest.nativeEq
    inferInstanceAs (DecidableEq (inner.Native × rest.Native))
  | optional _ _ inner rest =>
    have := inner.nativeEq
    have := rest.nativeEq
    inferInstanceAs (DecidableEq (Option inner.Native × rest.Native))
  | list _ _ inner rest =>
    have := inner.nativeEq
    have := rest.nativeEq
    inferInstanceAs (DecidableEq (List inner.Native × rest.Native))

instance (s : Shape) : DecidableEq s.Native := s.nativeEq

def initial : (s : Shape) → s.Native
  | done => ()
  | leaf _ conversion rest => (conversion.initial, rest.initial)
  | untagged _ conversion rest => (conversion.initial, rest.initial)
  | nested _ _ inner rest => (inner.initial, rest.initial)
  | optional _ _ _ rest => (none, rest.initial)
  | list _ _ _ rest => ([], rest.initial)

def null : (s : Shape) → s.Holder
  | done => ()
  | leaf _ _ rest => (none, rest.null)
  | untagged _ _ rest => rest.null
  | nested _ _ _ rest => (none, rest.null)
  | optional _ _ _ rest => (none, rest.null)
  | list _ _ _ rest => (none, rest.null)

def tags : Shape → List String
  | done => []
  | leaf name _ rest => name :: rest.tags
  | untagged _ _ rest => rest.tags
  | nested name _ _ rest => name :: rest.tags
  | optional name _ _ rest => name :: rest.tags
  | list name _ _ rest => name :: rest.tags

def attributes : Shape → Attributes
  | done => .nil
  | leaf name conversion rest => .cons name (.leaf conversion.type) true rest.attributes
  | untagged _ _ rest => rest.attributes
  | nested name _ inner rest => .cons name (.nested inner.attributes) true rest.attributes
  | optional name _ inner rest => .cons name (.nested inner.attributes) true rest.attributes
  | list name _ inner rest => .cons name (.nestedList inner.attributes) true rest.attributes

end Shape

structure Record where
  name : String
  shape : Shape
  deriving Repr, Inhabited

end AttributeSchema
