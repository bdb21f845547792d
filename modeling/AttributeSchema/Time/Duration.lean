import AttributeSchema.Text.Blank
import AttributeSchema.Text.Decimal
/-!
# Durations

A duration is a number of nanoseconds below `2 ^ 64` seconds. Its text is a sequence of decimal numbers
with units, such as `1h30m`, `2.5s` or `250ms`; the shortest text has hours, minutes and seconds only.
Reading cuts the text into maximal runs of digits and points, each followed by a maximal run of other
characters, and adds up what the parts say.
-/

namespace AttributeSchema

/-- A number of nanoseconds below `2 ^ 64` seconds. -/
structure Duration where
  nanoseconds : Nat
  bound : nanoseconds < 0x1_0000_0000_0000_0000 * 1_000_000_000
  deriving DecidableEq

namespace Duration

open Text

def zero : Duration := ⟨0, by decide⟩

instance : Inhabited Duration := ⟨zero⟩

def ofNanoseconds? (n : Nat) : Option Duration :=
  if h : n < 0x1_0000_0000_0000_0000 * 1_000_000_000 then some ⟨n, h⟩ else none

def seconds (d : Duration) : Nat := d.nanoseconds / 1_000_000_000

def subsecond (d : Duration) : Nat := d.nanoseconds % 1_000_000_000

/-! ### Writing -/

def withoutZeros (ds : List Char) : List Char := (ds.reverse.dropWhile (· == '0')).reverse

def hoursText (hours : Nat) : List Char :=
  if 0 < hours then Decimal.digits hours ++ ['h'] else []

def minutesText (minutes : Nat) : List Char :=
  if 0 < minutes then Decimal.digits minutes ++ ['m'] else []

def secondsText (seconds nanos : Nat) : List Char :=
  if 0 < nanos then
    Decimal.digits seconds ++ '.' :: withoutZeros (Decimal.padded 9 nanos) ++ ['s']
  else if 0 < seconds then Decimal.digits seconds ++ ['s']
  else []

def text (d : Duration) : List Char :=
  if d.nanoseconds = 0 then ['0', 's']
  else
    hoursText (d.seconds / 3600) ++ minutesText (d.seconds % 3600 / 60) ++
      secondsText (d.seconds % 60) d.subsecond

/-! ### Reading -/

inductive Fault
  | empty
  | malformed
  | missingUnit
  | unknownUnit (unit : String)
  | outOfRange
  deriving DecidableEq, Repr, Inhabited

def Fault.message (input : String) : Fault → String
  | empty => "empty duration"
  | malformed => "invalid duration '" ++ input ++ "'"
  | missingUnit => "missing unit in duration '" ++ input ++ "'"
  | unknownUnit unit => "unknown unit '" ++ unit ++ "' in duration '" ++ input ++ "'"
  | outOfRange => "duration '" ++ input ++ "' is out of range"

structure Part where
  number : List Char
  unit : List Char
  deriving DecidableEq, Repr

def isNumeric (c : Char) : Bool := c.isDigit || c == '.'

/-- The parts of a text; only the last one may lack its unit. -/
def parts (s : List Char) : List Part :=
  match s with
  | [] => []
  | c :: rest =>
    let behind := (c :: rest).dropWhile isNumeric
    ⟨(c :: rest).takeWhile isNumeric, behind.takeWhile (!isNumeric ·)⟩ ::
      parts (behind.dropWhile (!isNumeric ·))
termination_by s.length
decreasing_by
  have h (p : Char → Bool) (l : List Char) : (l.dropWhile p).length ≤ l.length :=
    (List.dropWhile_sublist p).length_le
  by_cases hc : isNumeric c
  · have := h (!isNumeric ·) (rest.dropWhile isNumeric)
    have := h isNumeric rest
    simp only [List.dropWhile_cons, hc, if_true, List.length_cons]
    omega
  · have := h (!isNumeric ·) rest
    simp only [List.dropWhile_cons, hc, Bool.false_eq_true, if_false, Bool.not_false,
      if_true, List.length_cons]
    omega

def unitScale? (unit : List Char) : Option Nat :=
  match String.ofList unit with
  | "ns" => some 1
  | "us" => some 1000
  | "µs" => some 1000
  | "ms" => some 1_000_000
  | "s" => some 1_000_000_000
  | "m" => some (60 * 1_000_000_000)
  | "h" => some (3600 * 1_000_000_000)
  | _ => none

/-- The bound of intermediate results. -/
def limit : Nat := 0x1_0000_0000_0000_0000_0000_0000_0000_0000

def fractionDigits : Nat := 18

def scaled (number : List Char) (scale : Nat) : Except Fault Nat :=
  let whole := number.takeWhile (· != '.')
  let fraction := (number.dropWhile (· != '.')).drop 1
  if whole.isEmpty ∧ fraction.isEmpty then .error .malformed
  else if !fraction.all Char.isDigit then .error .malformed
  else if limit ≤ Decimal.value whole then .error .outOfRange
  else if limit ≤ Decimal.value whole * scale then .error .outOfRange
  else
    let digits := fraction.take fractionDigits
    let nanos := Decimal.value whole * scale + Decimal.value digits * scale / Nat.pow 10 digits.length
    if limit ≤ nanos then .error .outOfRange else .ok nanos

def Part.nanoseconds (p : Part) : Except Fault Nat :=
  if p.unit.isEmpty then .error .missingUnit
  else
    match unitScale? p.unit with
    | none => .error (.unknownUnit (String.ofList p.unit))
    | some scale => scaled p.number scale

def sum (total : Nat) : List Part → Except Fault Nat
  | [] => .ok total
  | p :: rest =>
    match p.nanoseconds with
    | .error fault => .error fault
    | .ok nanos => if limit ≤ total + nanos then .error .outOfRange else sum (total + nanos) rest

/-- The duration that a text without blanks on its ends spells. -/
def parse (s : List Char) : Except Fault Duration :=
  if s.isEmpty then .error .empty
  else if s = ['0'] then .ok zero
  else
    match sum 0 (parts s) with
    | .error fault => .error fault
    | .ok total =>
      match ofNanoseconds? total with
      | some d => .ok d
      | none => .error .outOfRange

def ofText (s : String) : Except Fault Duration := parse (Text.trim s.toList)

end Duration

end AttributeSchema
