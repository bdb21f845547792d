import AttributeSchema.Descriptor.Basic
/-!
# Descriptors of standard types

The tables of truth values, integers, texts, durations and timestamps, and of the types that wrap
others.
-/

namespace AttributeSchema.Descriptor

def bool : Descriptor := scalar "bool" .bool

def string : Descriptor := scalar "String" .string

def integer (kind : IntKind) : Descriptor := scalar kind.name (.integer kind)

def duration : Descriptor := mk "Duration" "std::time::Duration" (.encoded .duration) []

def timestamp : Descriptor :=
  mk "DateTime<Utc>" "chrono::DateTime<chrono::Utc>" (.encoded .timestamp) []

def applied (outer inner : String) : String := outer ++ "<" ++ inner ++ ">"

def optional (inner : Descriptor) : Descriptor :=
  mk (applied "Option" inner.name) (applied "Option" inner.path) (.optional inner) []

def sequence (item : Descriptor) : Descriptor :=
  mk (applied "Vec" item.name) (applied "Vec" item.path) (.sequence item) []

def mapping (outer : String) (key value : Descriptor) : Descriptor :=
  mk (applied outer (key.name ++ ", " ++ value.name)) (applied outer (key.path ++ ", " ++ value.path))
    (.mapping key value) []

def sortedMap (key value : Descriptor) : Descriptor := mapping "BTreeMap" key value

def hashMap (key value : Descriptor) : Descriptor := mapping "HashMap" key value

end AttributeSchema.Descriptor
