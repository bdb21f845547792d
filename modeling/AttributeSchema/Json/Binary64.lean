import AttributeSchema.Text.Decimal
/-!
# Binary floating point numbers

Finite numbers of 53 significant binary digits, with their rounding from fractions, the product and
the quotient with a fraction, and the shortest decimal text that reads back.
-/

namespace AttributeSchema.Json

/-- The number `significand * 2 ^ exponent`, negated where `negative` holds. Numbers of full size have
53 binary digits; smaller ones have the least exponent. -/
structure Binary64 where
  negative : Bool
  significand : Nat
  exponent : Int
  deriving DecidableEq, Repr, Inhabited

namespace Binary64

def leastExponent : Int := -1074

def greatestExponent : Int := 971

def zero (negative : Bool) : Binary64 := ⟨negative, 0, leastExponent⟩

def isZero (x : Binary64) : Bool := x.significand == 0

/-- The fraction `(num / den) / base ^ power`. -/
def shift (base : Nat) (num den : Nat) (power : Int) : Nat × Nat :=
  if 0 ≤ power then (num, den * Nat.pow base power.toNat)
  else (num * Nat.pow base (-power).toNat, den)

/-- The natural number nearest to a fraction; a half goes to the even neighbour. -/
def nearest (num den : Nat) : Nat :=
  let floor := num / den
  let rest := num % den
  if 2 * rest < den then floor
  else if den < 2 * rest then floor + 1
  else floor + floor % 2

/-- The greatest power of two that is not above a positive fraction. -/
def magnitude (num den : Nat) : Int :=
  let guess : Int := (num.log2 : Int) - den.log2
  let (n, d) := shift 2 num den guess
  if n < d then guess - 1 else guess

/-- The number nearest to a fraction, unless that is too large. -/
def ofFraction (negative : Bool) (num den : Nat) : Option Binary64 :=
  if num = 0 then some (zero negative)
  else
    let exponent := max leastExponent (magnitude num den - 52)
    let (n, d) := shift 2 num den exponent
    let significand := nearest n d
    let rounded : Binary64 :=
      if significand = 0x20_0000_0000_0000 then ⟨negative, 0x10_0000_0000_0000, exponent + 1⟩
      else ⟨negative, significand, exponent⟩
    if rounded.exponent ≤ greatestExponent then some rounded else none

def fraction (x : Binary64) : Nat × Nat := shift 2 x.significand 1 (-x.exponent)

/-- The rounded product of a number and a natural number. -/
def mulNat (x : Binary64) (n : Nat) : Option Binary64 :=
  let (num, den) := x.fraction
  let (pnum, pden) := ((ofFraction false n 1).getD (zero false)).fraction
  ofFraction x.negative (num * pnum) (den * pden)

/-- The rounded quotient of a number and a positive natural number. -/
def divNat (x : Binary64) (n : Nat) : Option Binary64 :=
  let (num, den) := x.fraction
  let (pnum, pden) := ((ofFraction false n 1).getD (zero false)).fraction
  ofFraction x.negative (num * pden) (den * pnum)

/-! ### Decimal text -/

/-- Whether a fraction rounds to this number: it lies between the midpoints to the neighbours, of
which an even number takes in both. -/
def takesIn (x : Binary64) (num den : Nat) : Bool :=
  match ofFraction x.negative num den with
  | some y => y == x
  | none => false

/-- The number of decimal digits before the point of a positive fraction, or the negated number of
zeros after it. -/
def decimalMagnitude (num den : Nat) : Int :=
  let guess : Int := ((Text.Decimal.digits num).length : Int) - (Text.Decimal.digits den).length
  let (n, d) := shift 10 num den guess
  if n < d then guess else guess + 1

/-- The decimal of this many digits that is nearest to the number among those that read back as it,
with the power of ten of its last digit. -/
def decimalOf? (x : Binary64) (digits : Nat) : Option (Nat × Int) :=
  let (num, den) := x.fraction
  let power := decimalMagnitude num den - digits
  let (n, d) := shift 10 num den power
  let low := n / d
  let reads (m : Nat) : Bool :=
    let (mn, md) := shift 10 m 1 (-power)
    x.takesIn mn md
  let near := nearest n d
  if reads near then some (near, power)
  else if reads low then some (low, power)
  else if reads (low + 1) then some (low + 1, power)
  else none

/-- The shortest decimal that reads back as a number other than zero. -/
def shortest (x : Binary64) : Nat × Int :=
  ((List.range 17).findSome? fun k => x.decimalOf? (k + 1)).getD (0, 0)

structure DecimalForm where
  /-- The least decimal exponent that is written without an exponent. -/
  lowest : Int
  /-- The greatest decimal exponent that is written without an exponent. -/
  highest : Int
  /-- What stands before an exponent that is not negative. -/
  plus : String

def jsonForm : DecimalForm := ⟨-5, 15, "+"⟩

/-- The text of a decimal by its digits and the power of ten of the last one. -/
def layOut (form : DecimalForm) (digits : List Char) (power : Int) : List Char :=
  let exponent : Int := power + digits.length - 1
  if form.lowest ≤ exponent ∧ exponent ≤ form.highest then
    if 0 ≤ power then digits ++ List.replicate power.toNat '0' ++ ['.', '0']
    else if 0 ≤ exponent then
      digits.take (exponent.toNat + 1) ++ '.' :: digits.drop (exponent.toNat + 1)
    else ['0', '.'] ++ List.replicate ((-exponent).toNat - 1) '0' ++ digits
  else
    let front :=
      match digits with
      | [d] => [d]
      | d :: more => d :: '.' :: more
      | [] => []
    let sign := if 0 ≤ exponent then form.plus.toList else ['-']
    front ++ 'e' :: sign ++ Text.Decimal.digits exponent.natAbs

def withoutTrailingZeros : Nat → Nat → Int → Nat × Int
  | 0, m, power => (m, power)
  | fuel + 1, m, power =>
    if m ≠ 0 ∧ m % 10 = 0 then withoutTrailingZeros fuel (m / 10) (power + 1) else (m, power)

/-- The shortest text that reads back as the number. -/
def text (x : Binary64) : String :=
  let sign := if x.negative then ['-'] else []
  if x.isZero then String.ofList (sign ++ ['0', '.', '0'])
  else
    let (m, power) := x.shortest
    let (m, power) := withoutTrailingZeros 20 m power
    String.ofList (sign ++ layOut jsonForm (Text.Decimal.digits m) power)

end Binary64

end AttributeSchema.Json
