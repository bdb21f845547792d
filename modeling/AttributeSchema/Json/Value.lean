import AttributeSchema.Json.Binary64
/-!
# JSON values

A JSON value. Objects keep their entries as a list; in a canonical value their keys ascend strictly and
integers lie in the range that is told apart from floating point numbers.
-/

namespace AttributeSchema.Json

inductive Value
  | null
  | bool (value : Bool)
  | integer (value : Int)
  | float (value : Binary64)
  | string (value : String)
  | array (items : List Value)
  | object (entries : List (String × Value))
  deriving Repr, Inhabited

namespace Value

/-- Whether an integer is kept exactly: it is below `2 ^ 64` and not below `-2 ^ 63`. -/
def isExact (n : Int) : Bool := -0x8000_0000_0000_0000 ≤ n && n < 0x1_0000_0000_0000_0000

mutual
/-- Whether all keys ascend strictly and all integers are in range. -/
def Canonical : Value → Prop
  | array items => CanonicalItems items
  | object entries => (entries.Pairwise fun a b => a.1 < b.1) ∧ CanonicalEntries entries
  | integer n => isExact n = true
  | _ => True

def CanonicalItems : List Value → Prop
  | [] => True
  | v :: rest => Canonical v ∧ CanonicalItems rest

def CanonicalEntries : List (String × Value) → Prop
  | [] => True
  | (_, v) :: rest => Canonical v ∧ CanonicalEntries rest
end

def get? (v : Value) (key : String) : Option Value :=
  match v with
  | object entries => entries.lookup key
  | _ => none

def strings (texts : List String) : Value := array (texts.map string)

end Value

end AttributeSchema.Json
