/-!
# Sets of code points

A set of code points is a list of closed ranges. The operations on sets give ranges in ascending order
that do not touch each other, and leave out the code points of surrogates, which are no characters.
-/

namespace AttributeSchema.Text

abbrev Ranges := List (Nat × Nat)

namespace Ranges

def contains (ranges : Ranges) (c : Char) : Bool :=
  ranges.any fun range => range.1 ≤ c.toNat && c.toNat ≤ range.2

theorem contains_iff (ranges : Ranges) (c : Char) :
    ranges.contains c = true ↔ ∃ r ∈ ranges, r.1 ≤ c.toNat ∧ c.toNat ≤ r.2 := by
  simp [contains]

def withoutSurrogates (range : Nat × Nat) : Ranges :=
  [(range.1, min range.2 0xD7FF), (max range.1 0xE000, min range.2 0x10FFFF)].filter fun r =>
    r.1 ≤ r.2

/-- Joins a range and those that follow it, which ascend by first code points, where they touch. -/
def joinedFrom (r : Nat × Nat) : Ranges → Ranges
  | [] => [r]
  | next :: more =>
    if next.1 ≤ r.2 + 1 then joinedFrom (r.1, max r.2 next.2) more else r :: joinedFrom next more

def ordered (ranges : Ranges) : Ranges :=
  match (ranges.flatMap withoutSurrogates).mergeSort fun a b => a.1 ≤ b.1 with
  | [] => []
  | first :: rest => joinedFrom first rest

def union (a b : Ranges) : Ranges := ordered (a ++ b)

/-- What is left from some code point on of all that lies between ascending ranges. -/
def gapsFrom (first : Nat) : Ranges → Ranges
  | [] => [(first, 0x10FFFF)]
  | r :: rest => (if first < r.1 then [(first, r.1 - 1)] else []) ++ gapsFrom (r.2 + 1) rest

def complement (a : Ranges) : Ranges := ordered (gapsFrom 0 (ordered a))

def intersection (a b : Ranges) : Ranges := complement (union (complement a) (complement b))

def difference (a b : Ranges) : Ranges := intersection a (complement b)

def exclusive (a b : Ranges) : Ranges := union (difference a b) (difference b a)

end Ranges

end AttributeSchema.Text
