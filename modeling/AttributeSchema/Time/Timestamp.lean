import AttributeSchema.Text.Blank
import AttributeSchema.Text.Decimal
import AttributeSchema.Text.Utf8
import AttributeSchema.Time.Calendar
/-!
# Timestamps

A timestamp is a point in universal time: seconds since the start of 1970 with nanoseconds, which may run
on through a leap second. Its text follows RFC 3339.
-/

namespace AttributeSchema

def Timestamp.firstSecond : Int := -8334601228800

def Timestamp.lastSecond : Int := 8210266876799

/-- A point in universal time. From one billion nanoseconds on it is a leap second. That may follow any
second, since a local clock need not end its minutes where those of universal time end. -/
structure Timestamp where
  seconds : Int
  nanoseconds : Nat
  notBefore : Timestamp.firstSecond ≤ seconds
  notAfter : seconds ≤ Timestamp.lastSecond
  isFraction : nanoseconds < 2_000_000_000
  deriving DecidableEq

namespace Timestamp

open Text Calendar

def EndsMinute (t : Timestamp) : Prop := t.nanoseconds < 1_000_000_000 ∨ t.seconds % 60 = 59

instance (t : Timestamp) : Decidable t.EndsMinute :=
  inferInstanceAs (Decidable (t.nanoseconds < 1_000_000_000 ∨ t.seconds % 60 = 59))

/-- The timestamp of seconds and nanoseconds. In universal time a leap second ends a minute. -/
def ofUnix? (seconds : Int) (nanoseconds : Nat) : Option Timestamp :=
  if h : firstSecond ≤ seconds ∧ seconds ≤ lastSecond ∧ nanoseconds < 2_000_000_000 then
    let t : Timestamp := ⟨seconds, nanoseconds, h.1, h.2.1, h.2.2⟩
    if t.EndsMinute then some t else none
  else none

def epoch : Timestamp := ⟨0, 0, by decide, by decide, by decide⟩

instance : Inhabited Timestamp := ⟨epoch⟩

/-! ### Writing -/

/-- A year: four digits, or a sign and at least four digits for years of more or less. -/
def yearText (year : Int) : List Char :=
  if 0 ≤ year ∧ year ≤ 9999 then Decimal.padded 4 year.toNat
  else (if year < 0 then '-' else '+') :: Decimal.padded 4 year.natAbs

/-- A fraction of a second, with as many groups of three digits as it needs. -/
def fractionText (nanos : Nat) : List Char :=
  if nanos = 0 then []
  else if nanos % 1_000_000 = 0 then '.' :: Decimal.padded 3 (nanos / 1_000_000)
  else if nanos % 1000 = 0 then '.' :: Decimal.padded 6 (nanos / 1000)
  else '.' :: Decimal.padded 9 nanos

def dateText (d : Date) : List Char :=
  yearText d.year ++ '-' :: Decimal.padded 2 d.month ++ '-' :: Decimal.padded 2 d.day

/-- The second of the day and the nanoseconds as a time of day; a leap second is the sixtieth. -/
def timeText (second nanos : Nat) : List Char :=
  let leap := if 1_000_000_000 ≤ nanos then 1 else 0
  Decimal.padded 2 (second / 3600) ++ ':' :: Decimal.padded 2 (second / 60 % 60) ++
    ':' :: Decimal.padded 2 (second % 60 + leap) ++ fractionText (nanos % 1_000_000_000)

def text (t : Timestamp) : List Char :=
  dateText (Date.ofDay (t.seconds / 86400)) ++
    'T' :: timeText (t.seconds % 86400).toNat t.nanoseconds ++ ['Z']

/-! ### Reading -/

inductive Fault
  | invalid
  | tooShort
  | tooLong
  | outOfRange
  deriving DecidableEq, Repr, Inhabited

def Fault.reason : Fault → String
  | invalid => "input contains invalid characters"
  | tooShort => "premature end of input"
  | tooLong => "trailing input"
  | outOfRange => "input is out of range"

def Fault.message (input : String) (f : Fault) : String :=
  "invalid timestamp '" ++ input ++ "': " ++ f.reason

/-- What reading gives: a value with the characters behind it, or a fault. -/
abbrev Reading (α : Type) := Except Fault (α × List Char)

def digits : Nat → List Char → Reading (List Char)
  | 0, s => .ok ([], s)
  | n + 1, c :: rest =>
    if c.isDigit then (digits n rest).map fun (ds, after) => (c :: ds, after) else .error .invalid
  | _ + 1, [] => .error .invalid

def number (count : Nat) (s : List Char) : Reading Nat :=
  (digits count s).map fun (ds, rest) => (Decimal.value ds, rest)

def oneOf (allowed : List Char) : List Char → Reading Unit
  | c :: rest => if c ∈ allowed then .ok ((), rest) else .error .invalid
  | [] => .error .tooShort

def date (s : List Char) : Except Fault (Date × List Char) := do
  let (year, s) ← number 4 s
  let (_, s) ← oneOf ['-'] s
  let (month, s) ← number 2 s
  let (_, s) ← oneOf ['-'] s
  let (day, s) ← number 2 s
  let found : Date := ⟨year, month, day⟩
  if found.isValid then .ok (found, s) else .error .outOfRange

/-- Reads the digits of a fraction of a second as nanoseconds; digits after the ninth do not count. -/
def fraction (s : List Char) : Reading Nat :=
  match s with
  | [] => .error .tooShort
  | _ :: _ =>
    let (ds, rest) := Decimal.span s
    if ds.isEmpty then .error .invalid
    else
      let counted := ds.take 9
      .ok (Decimal.value counted * Nat.pow 10 (9 - counted.length), rest)

/-- Reads a time of day as its second and the nanoseconds, which run on through a leap second. -/
def time (s : List Char) : Except Fault ((Nat × Nat) × List Char) := do
  let (hour, s) ← number 2 s
  let (_, s) ← oneOf [':'] s
  let (minute, s) ← number 2 s
  let (_, s) ← oneOf [':'] s
  let (second, s) ← number 2 s
  let (nanos, s) ←
    match s with
    | '.' :: rest => fraction rest
    | _ => .ok (0, s)
  let (second, nanos) := if second = 60 then (59, nanos + 1_000_000_000) else (second, nanos)
  if hour < 24 ∧ minute < 60 ∧ second < 60 then .ok ((hour * 3600 + minute * 60 + second, nanos), s)
  else .error .outOfRange

/-- Reads the two digits of an offset's hours or minutes, of which there must be two bytes. -/
def offsetDigits (s : List Char) : Reading (Nat × Nat) :=
  if Utf8.byteCount s < 2 then .error .tooShort
  else
    match s with
    | a :: b :: rest =>
      if a.isDigit && b.isDigit then .ok ((Decimal.digitValue a, Decimal.digitValue b), rest)
      else .error .invalid
    | _ => .error .invalid

def offset (s : List Char) : Reading Int :=
  let after (negative : Bool) (s : List Char) : Except Fault (Int × List Char) := do
    let ((h, h'), s) ← offsetDigits s
    let (_, s) ← oneOf [':'] s
    let ((m, m'), s) ← offsetDigits s
    if 5 < m then .error .outOfRange
    else
      let size : Int := (h * 10 + h' : Nat) * 3600 + (m * 10 + m' : Nat) * 60
      .ok (if negative then -size else size, s)
  match s with
  | [] => .error .tooShort
  | 'Z' :: rest => .ok (0, rest)
  | 'z' :: rest => .ok (0, rest)
  | '+' :: rest => after false rest
  | '-' :: rest => after true rest
  | '\u2212' :: rest => after true rest
  | _ => .error .invalid

/-- The timestamp that a text without blanks on its ends spells. -/
def parse (s : List Char) : Except Fault Timestamp :=
  if Utf8.byteCount s < 19 then .error .tooShort
  else do
    let (date, s) ← date s
    let (_, s) ← oneOf ['t', 'T', ' '] s
    let ((second, nanos), s) ← time s
    let (offset, s) ← offset s
    if !s.isEmpty then .error .tooLong
    else if 86400 ≤ offset.natAbs then .error .outOfRange
    else
      match ofUnix? (date.toDay * 86400 + second - offset) nanos with
      | some t => .ok t
      | none => .error .outOfRange

def ofText (s : String) : Except Fault Timestamp := parse (Text.trim s.toList)

end Timestamp

end AttributeSchema
