import AttributeSchema.Json.Maps
/-!
# Attribute values

The values of plain attributes: truth values, numbers of 128 bits, texts, lists of texts and maps from
texts to texts. Every attribute value may be null. A value is written as JSON, and read from a JSON
tree or from JSON text.
-/

namespace AttributeSchema

structure Number where
  value : Int
  lower : -0x8000_0000_0000_0000_0000_0000_0000_0000 ≤ value
  upper : value < 0x8000_0000_0000_0000_0000_0000_0000_0000
  deriving DecidableEq

def Number.ofInt? (n : Int) : Option Number :=
  if h : -0x8000_0000_0000_0000_0000_0000_0000_0000 ≤ n ∧
      n < 0x8000_0000_0000_0000_0000_0000_0000_0000 then some ⟨n, h.1, h.2⟩ else none

inductive LeafType
  | bool
  | number
  | string
  | listOfString
  | mapOfStringToString
  deriving DecidableEq, Repr, Inhabited

namespace LeafType

open Json (Reading skipSpaces)
open Json.Failure (here)

abbrev Carrier : LeafType → Type
  | bool => Bool
  | number => Number
  | string => String
  | listOfString => List String
  | mapOfStringToString => SortedMap String

instance (t : LeafType) : DecidableEq t.Carrier :=
  match t with
  | bool => inferInstanceAs (DecidableEq Bool)
  | number => inferInstanceAs (DecidableEq Number)
  | string => inferInstanceAs (DecidableEq String)
  | listOfString => inferInstanceAs (DecidableEq (List String))
  | mapOfStringToString => inferInstanceAs (DecidableEq (SortedMap String))

def wanted : LeafType → String
  | bool => "a boolean"
  | number => "i128"
  | string => "a string"
  | listOfString => "a sequence"
  | mapOfStringToString => "a map"

/-! ### Writing -/

def carrierJson : (t : LeafType) → t.Carrier → Json.Value
  | bool, b => .bool b
  | number, n => .integer n.value
  | string, s => .string s
  | listOfString, texts => .array (texts.map .string)
  | mapOfStringToString, m => .object (m.entries.map fun e => (e.1, .string e.2))

/-- The JSON value of an attribute; a null attribute is null. -/
def toJson (t : LeafType) : Option t.Carrier → Json.Value
  | none => .null
  | some value => t.carrierJson value

/-! ### Reading trees -/

def textOfTree : Json.Value → Except String String
  | .string s => .ok s
  | other => .error (Json.invalidType other "a string")

def textsOfTrees : List Json.Value → Except String (List String)
  | [] => .ok []
  | v :: rest => do
    let first ← textOfTree v
    let more ← textsOfTrees rest
    .ok (first :: more)

def mapOfEntries (m : SortedMap String) : List (String × Json.Value) → Except String (SortedMap String)
  | [] => .ok m
  | (key, v) :: rest => do
    let text ← textOfTree v
    mapOfEntries (m.insert key text) rest

def carrierOfTree : (t : LeafType) → Json.Value → Except String t.Carrier
  | bool, .bool b => .ok b
  | number, .integer n =>
    match Number.ofInt? n with
    | some n => .ok n
    | none => .error "number out of range"
  | string, .string s => .ok s
  | listOfString, .array items => textsOfTrees items
  | mapOfStringToString, .object entries => mapOfEntries .empty entries
  | t, other => .error (Json.invalidType other t.wanted)

def ofTree (t : LeafType) : Json.Value → Except String (Option t.Carrier)
  | .null => .ok none
  | value => (t.carrierOfTree value).map some

/-! ### Reading text -/

def readTexts (isFirst : Bool) : Nat → List Char → Reading (List String)
  | 0, s => .error (here "recursion limit exceeded" s)
  | fuel + 1, s =>
    match Json.nextItem isFirst s with
    | .error e => .error e
    | .ok (false, rest) => .ok ([], rest)
    | .ok (true, rest) =>
      match Json.text rest with
      | .error e => .error e
      | .ok (text, rest) => (readTexts false fuel rest).map fun (more, rest) => (text :: more, rest)

/-- Reads a number; it ends before the first character that is no digit. -/
def readNumber (s : List Char) : Reading Number :=
  let close (negative : Bool) (s : List Char) : Reading Number :=
    match Json.integerDigits s with
    | .error e => .error e
    | .ok (digits, rest) =>
      let size : Int := Text.Decimal.value digits
      match Number.ofInt? (if negative then -size else size) with
      | some n => .ok (n, rest)
      | none => .error (here "number out of range" rest)
  match s with
  | [] => .error (here "EOF while parsing a value" [])
  | '-' :: rest => close true rest
  | _ => close false s

/-- Reads what an attribute holds, its blanks already passed over. -/
def readCarrier : (t : LeafType) → List Char → Reading t.Carrier
  | bool, s =>
    match s with
    | 't' :: rest => (Json.word ['r', 'u', 'e'] rest).map fun (_, rest) => (true, rest)
    | 'f' :: rest => (Json.word ['a', 'l', 's', 'e'] rest).map fun (_, rest) => (false, rest)
    | _ => .error (Json.mismatch bool.wanted s)
  | number, s => readNumber s
  | string, s => Json.text s
  | listOfString, s =>
    match s with
    | '[' :: rest => readTexts true (s.length + 1) rest
    | _ => .error (Json.mismatch listOfString.wanted s)
  | mapOfStringToString, s =>
    match s with
    | '{' :: rest => Json.mapEntries Json.text true .empty (s.length + 1) rest
    | _ => .error (Json.mismatch mapOfStringToString.wanted s)

def read (t : LeafType) (s : List Char) : Reading (Option t.Carrier) :=
  match skipSpaces s with
  | 'n' :: rest => (Json.word ['u', 'l', 'l'] rest).map fun (_, rest) => (none, rest)
  | other => (t.readCarrier other).map fun (value, rest) => (some value, rest)

def ofText (t : LeafType) (text : String) : Except String (Option t.Carrier) :=
  Json.whole t.read text.toList

end LeafType

end AttributeSchema
