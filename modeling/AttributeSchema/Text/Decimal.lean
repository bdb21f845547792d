/-!
# Decimal digits

Natural numbers as decimal digits, as few as possible or padded to a width, and back.
-/

namespace AttributeSchema.Text.Decimal

/-- The digits of a number without leading zeros; zero is one digit. -/
def digits (n : Nat) : List Char := Nat.toDigits 10 n

def padded (width n : Nat) : List Char :=
  List.replicate (width - (digits n).length) '0' ++ digits n

def digitValue (c : Char) : Nat := c.toNat - 48

def value (ds : List Char) : Nat := ds.foldl (fun n c => n * 10 + digitValue c) 0

def span (s : List Char) : List Char × List Char :=
  (s.takeWhile Char.isDigit, s.dropWhile Char.isDigit)

end AttributeSchema.Text.Decimal
