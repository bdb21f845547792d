/-!
# The calendar

Days are counted from the first of January 1970 in the Gregorian calendar, which is carried on before
its introduction and to years before the first one, where the year 0 precedes the year 1.
-/

namespace AttributeSchema.Calendar

def isLeap (year : Int) : Bool := year % 4 == 0 && (year % 100 != 0 || year % 400 == 0)

/-- The number of leap years before a year, counted from the year 0 and negative before it. -/
def leapsBefore (year : Int) : Int := (year - 1) / 4 - (year - 1) / 100 + (year - 1) / 400

def firstDay (year : Int) : Int := 365 * (year - 1970) + leapsBefore year - leapsBefore 1970

def monthLengths (leap : Bool) : List Nat :=
  [31, if leap then 29 else 28, 31, 30, 31, 30, 31, 31, 30, 31, 30, 31]

structure Date where
  year : Int
  /-- From 1 to 12. -/
  month : Nat
  /-- From 1 on. -/
  day : Nat
  deriving DecidableEq, Repr, Inhabited

def Date.isValid (d : Date) : Bool :=
  1 ≤ d.month && 1 ≤ d.day &&
    ((monthLengths (isLeap d.year))[d.month - 1]?).any fun length => d.day ≤ length

def daysBefore (leap : Bool) (month : Nat) : Nat :=
  ((monthLengths leap).take (month - 1)).foldr (· + ·) 0

def Date.toDay (d : Date) : Int :=
  firstDay d.year + daysBefore (isLeap d.year) d.month + d.day - 1

/-- The year of a day: the last one that has started. -/
def yearOf (day : Int) : Int :=
  let guess := 1970 + 400 * day / 146097
  if day < firstDay guess then guess - 1
  else if firstDay (guess + 1) ≤ day then guess + 1
  else guess

def locate (month : Nat) : Nat → List Nat → Nat × Nat
  | rest, [] => (month, rest + 1)
  | rest, length :: more => if rest < length then (month, rest + 1) else locate (month + 1) (rest - length) more

def Date.ofDay (day : Int) : Date :=
  let year := yearOf day
  let (month, dayOfMonth) := locate 1 (day - firstDay year).toNat (monthLengths (isLeap year))
  ⟨year, month, dayOfMonth⟩

end AttributeSchema.Calendar
