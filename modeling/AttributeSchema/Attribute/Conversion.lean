import AttributeSchema.Attribute.Value
import AttributeSchema.IntKind
import AttributeSchema.Time.Duration
import AttributeSchema.Time.Timestamp
/-!
# Conversions of plain attributes

How a native value is carried by a plain attribute: as it is, as a wider number, or as a text.
-/

namespace AttributeSchema

/-- How a native value is carried by a plain attribute. -/
inductive LeafConversion
  | bool
  | text
  | integer (kind : IntKind)
  | duration
  | timestamp
  /-- Bytes travel as the text that they encode. -/
  | bytes
  | stringList
  | stringMap
  deriving DecidableEq, Repr, Inhabited

namespace LeafConversion

open Text

abbrev type : LeafConversion → LeafType
  | bool => .bool
  | text => .string
  | integer _ => .number
  | duration => .string
  | timestamp => .string
  | bytes => .string
  | stringList => .listOfString
  | stringMap => .mapOfStringToString

abbrev Native : LeafConversion → Type
  | bool => Bool
  | text => String
  | integer kind => Sized kind
  | duration => Duration
  | timestamp => Timestamp
  | bytes => List UInt8
  | stringList => List String
  | stringMap => SortedMap String

instance (c : LeafConversion) : DecidableEq c.Native :=
  match c with
  | bool => inferInstanceAs (DecidableEq Bool)
  | text => inferInstanceAs (DecidableEq String)
  | integer kind => inferInstanceAs (DecidableEq (Sized kind))
  | duration => inferInstanceAs (DecidableEq Duration)
  | timestamp => inferInstanceAs (DecidableEq Timestamp)
  | bytes => inferInstanceAs (DecidableEq (List UInt8))
  | stringList => inferInstanceAs (DecidableEq (List String))
  | stringMap => inferInstanceAs (DecidableEq (SortedMap String))

def initial : (c : LeafConversion) → c.Native
  | bool => false
  | text => ""
  | integer _ => .zero
  | duration => .zero
  | timestamp => .epoch
  | bytes => []
  | stringList => []
  | stringMap => .empty

def widen {kind : IntKind} (n : Sized kind) : Number :=
  ⟨n.value, Int.le_trans kind.least_lower n.lower, Int.lt_of_le_of_lt n.upper kind.greatest_upper⟩

def narrow (kind : IntKind) (n : Number) : Except String (Sized kind) :=
  match Sized.ofInt? n.value with
  | some sized => .ok sized
  | none =>
    if n.value < kind.least then .error "number too small to fit in target type"
    else .error "number too large to fit in target type"

def ofNative : (c : LeafConversion) → c.Native → c.type.Carrier
  | bool, b => b
  | text, s => s
  | integer _, n => widen n
  | duration, d => String.ofList d.text
  | timestamp, t => String.ofList t.text
  | bytes, bs => String.ofList (Utf8.decodeLossy bs)
  | stringList, texts => texts
  | stringMap, m => m

/-- The native value for an attribute's value, or why there is none. -/
def toNative : (c : LeafConversion) → c.type.Carrier → Except String c.Native
  | bool, b => .ok b
  | text, s => .ok s
  | integer kind, n => narrow kind n
  | duration, s =>
    match Duration.ofText s with
    | .ok d => .ok d
    | .error fault => .error (fault.message (trimmed s))
  | timestamp, s =>
    match Timestamp.ofText s with
    | .ok t => .ok t
    | .error fault => .error (fault.message s)
  | bytes, s => .ok (Utf8.encode s.toList)
  | stringList, texts => .ok texts
  | stringMap, m => .ok m

end LeafConversion

end AttributeSchema
