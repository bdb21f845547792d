/-!
# Number literals

A number literal is an integer or has a fraction or an exponent. Integers without a suffix also name the
members of tuples, of which several may be joined by points.
-/

namespace AttributeSchema.Source

/-- The digits of an integer literal and its suffix: the base, and what follows its mark. -/
def integerBase : List Char → Nat × List Char
  | '0' :: 'x' :: rest => (16, rest)
  | '0' :: 'o' :: rest => (8, rest)
  | '0' :: 'b' :: rest => (2, rest)
  | s => (10, s)

def digitValue? (base : Nat) (c : Char) : Option Nat :=
  let value :=
    if '0' ≤ c ∧ c ≤ '9' then c.toNat - 48
    else if 'a' ≤ c ∧ c ≤ 'f' then c.toNat - 87
    else if 'A' ≤ c ∧ c ≤ 'F' then c.toNat - 55
    else 36
  if value < base then some value else none

def integerValue? (base value : Nat) : List Char → Option Nat
  | [] => some value
  | '_' :: rest => integerValue? base value rest
  | c :: rest =>
    match digitValue? base c with
    | some d => integerValue? base (value * base + d) rest
    | none => none

/-- The number of a member, in decimal notation: an integer literal of 32 bits without a suffix. -/
def memberNumber? (text : String) : Option String :=
  if !text.toList.head?.any Char.isDigit then none
  else
    let (base, digits) := integerBase text.toList
    match integerValue? base 0 digits with
    | some n => if n < 0x1_0000_0000 then some (toString n) else none
    | none => none

def startsExponent : List Char → Bool
  | [] => false
  | c :: rest => c.isDigit || ((c == '+' || c == '-' || c == '_') && startsExponent rest)

def startsFraction : List Char → Bool
  | '.' :: _ => true
  | 'e' :: rest => startsExponent rest
  | 'E' :: rest => startsExponent rest
  | _ => false

/-- Whether a literal is a number with a point or an exponent. -/
def isFloat (text : String) : Bool :=
  text.toList.head?.any Char.isDigit && (integerBase text.toList).1 == 10 &&
    startsFraction (text.toList.dropWhile fun c => c.isDigit || c == '_')

/-- Whether a literal is a number without a point and an exponent, perhaps below zero. -/
def isInteger (text : String) : Bool :=
  let digits :=
    match text.toList with
    | '-' :: rest => rest
    | s => s
  digits.head?.any Char.isDigit && !isFloat (String.ofList digits)

def splitPoints : List Char → List (List Char)
  | [] => [[]]
  | '.' :: rest => [] :: splitPoints rest
  | c :: rest =>
    match splitPoints rest with
    | [] => [[c]]
    | part :: more => (c :: part) :: more

/-- The members that a literal with points names, and whether a point ends it. -/
def memberNumbers? (text : String) : Option (List String × Bool) := do
  let parts := (splitPoints text.toList).map String.ofList
  let isOpen := parts.getLast? == some ""
  let numbers ← (if isOpen then parts.dropLast else parts).mapM memberNumber?
  return (numbers, isOpen)

end AttributeSchema.Source
