import AttributeSchema.Json.Binary64
import AttributeSchema.Json.Failure
import AttributeSchema.Text.Decimal
/-!
# Strings, numbers and words of JSON texts

Each function reads one lexical part from the front of the remaining characters. Faults are placed
where a reader that looks one byte ahead notices them.
-/

namespace AttributeSchema.Json

open Failure (here behind)
open Text
open Text.Utf8 (byteCount)

/-! ### Blanks and words -/

def isSpace (c : Char) : Bool := c == ' ' || c == '\n' || c == '\t' || c == '\r'

def skipSpaces (s : List Char) : List Char := s.dropWhile isSpace

def word : List Char → List Char → Reading Unit
  | [], s => .ok ((), s)
  | _ :: _, [] => .error (here "EOF while parsing a value" [])
  | c :: more, d :: rest =>
    if c = d then word more rest else .error (behind "expected ident" (d :: rest))

/-! ### Strings -/

def hexValue? (c : Char) : Option Nat :=
  if '0' ≤ c ∧ c ≤ '9' then some (c.toNat - 48)
  else if 'a' ≤ c ∧ c ≤ 'f' then some (c.toNat - 87)
  else if 'A' ≤ c ∧ c ≤ 'F' then some (c.toNat - 55)
  else none

/-- Reads four hexadecimal digits. A fault is noticed when all four bytes are read. -/
def fourDigits (s : List Char) : Reading Nat :=
  if byteCount s < 4 then .error (here "EOF while parsing a string" [])
  else
    match s with
    | a :: b :: c :: d :: rest =>
      match hexValue? a, hexValue? b, hexValue? c, hexValue? d with
      | some a, some b, some c, some d => .ok (((a * 16 + b) * 16 + c) * 16 + d, rest)
      | _, _, _, _ => .error ⟨"invalid escape", byteCount s - 4⟩
    | _ => .error ⟨"invalid escape", byteCount s - 4⟩

def shortEscape? (c : Char) : Option Char :=
  match c with
  | '"' => some '"'
  | '\\' => some '\\'
  | '/' => some '/'
  | 'b' => some '\x08'
  | 'f' => some '\x0c'
  | 'n' => some '\n'
  | 'r' => some '\r'
  | 't' => some '\t'
  | _ => none

/-- Whether a number is the first or the second half of a pair of surrogates. -/
def isLeading (n : Nat) : Bool := 0xD800 ≤ n && n ≤ 0xDBFF

/-- Whether a number is the second half of a pair of surrogates. -/
def isTrailing (n : Nat) : Bool := 0xDC00 ≤ n && n ≤ 0xDFFF

/-- Reads a character by its code, of which the letter `u` has been read. -/
def codeEscape (s : List Char) : Reading Char :=
  match fourDigits s with
  | .error e => .error e
  | .ok (n, rest) =>
    if isTrailing n then .error (here "lone leading surrogate in hex escape" rest)
    else if isLeading n then
      match rest with
      | [] => .error (here "EOF while parsing a string" [])
      | '\\' :: [] => .error (here "EOF while parsing a string" [])
      | '\\' :: 'u' :: more =>
        match fourDigits more with
        | .error e => .error e
        | .ok (m, rest) =>
          if isTrailing m then
            .ok (Char.ofNat ((n - 0xD800) * 1024 + (m - 0xDC00) + 0x10000), rest)
          else .error (here "lone leading surrogate in hex escape" rest)
      | '\\' :: other => .error (behind "unexpected end of hex escape" other)
      | other => .error (behind "unexpected end of hex escape" other)
    else .ok (Char.ofNat n, rest)

def escaped (s : List Char) : Reading Char :=
  match s with
  | [] => .error (here "EOF while parsing a string" [])
  | c :: rest =>
    match shortEscape? c with
    | some d => .ok (d, rest)
    | none => if c = 'u' then codeEscape rest else .error (behind "invalid escape" s)

def controlMessage : String :=
  "control character (\\u0000-\\u001F) found while parsing a string"

/-- Reads a string, of which the opening quote has been read. -/
def stringBody : Nat → List Char → Reading (List Char)
  | 0, s => .error (here "EOF while parsing a string" s)
  | fuel + 1, s =>
    match s with
    | [] => .error (here "EOF while parsing a string" [])
    | '"' :: rest => .ok ([], rest)
    | '\\' :: rest =>
      match escaped rest with
      | .error e => .error e
      | .ok (c, rest) => (stringBody fuel rest).map fun (text, after) => (c :: text, after)
    | c :: rest =>
      if c.toNat < 32 then .error (behind controlMessage s)
      else (stringBody fuel rest).map fun (text, after) => (c :: text, after)

def stringText (s : List Char) : Reading String :=
  (stringBody (s.length + 1) s).map fun (text, rest) => (String.ofList text, rest)

/-- Passes over an escape, of which the backslash has been read. Surrogates need not form pairs. -/
def skipEscaped (s : List Char) : Reading Unit :=
  match s with
  | [] => .error (here "EOF while parsing a string" [])
  | c :: rest =>
    match shortEscape? c with
    | some _ => .ok ((), rest)
    | none =>
      if c = 'u' then (fourDigits rest).map fun (_, rest) => ((), rest)
      else .error (behind "invalid escape" s)

/-- Passes over a string, of which the opening quote has been read. -/
def skipString : Nat → List Char → Reading Unit
  | 0, s => .error (here "EOF while parsing a string" s)
  | fuel + 1, s =>
    match s with
    | [] => .error (here "EOF while parsing a string" [])
    | '"' :: rest => .ok ((), rest)
    | '\\' :: rest =>
      match skipEscaped rest with
      | .error e => .error e
      | .ok (_, rest) => skipString fuel rest
    | c :: rest =>
      if c.toNat < 32 then .error (here controlMessage s) else skipString fuel rest

/-! ### Numbers -/

/-- Reads the digits of an integer, of which there is at least one and no idle zero in front. -/
def integerDigits (s : List Char) : Reading (List Char) :=
  match s with
  | '0' :: rest =>
    if rest.head?.any Char.isDigit then .error (behind "invalid number" rest) else .ok (['0'], rest)
  | c :: _ =>
    if c.isDigit then .ok (Decimal.span s) else .error (behind "invalid number" s)
  | [] => .error (here "invalid number" [])

inductive Number
  | integer (value : Int)
  | float (value : Binary64)
  deriving DecidableEq, Repr, Inhabited

/-- Scales a rounded number by a power of ten, by at most 308 places at a time. -/
def scale : Nat → Binary64 → Int → Option Binary64
  | 0, x, _ => some x
  | fuel + 1, x, exponent =>
    if exponent.natAbs ≤ 308 then
      if 0 ≤ exponent then x.mulNat (Nat.pow 10 exponent.toNat)
      else x.divNat (Nat.pow 10 (-exponent).toNat)
    else if x.isZero then some x
    else if 0 ≤ exponent then none
    else (x.divNat (Nat.pow 10 308)).bind fun y => scale fuel y (exponent + 308)

/-- The float of a significand and a decimal exponent: the significand is rounded first, then scaled.
It takes only few steps to reach zero. -/
def scaled? (negative : Bool) (significand : Nat) (exponent : Int) : Option Binary64 := do
  let x ← Binary64.ofFraction negative significand 1
  scale 8 x exponent

/-- Splits digits into those that a number below `2 ^ 64` holds, and the ones after them. -/
def splitSignificand : Nat → List Char → Nat × List Char
  | n, [] => (n, [])
  | n, c :: rest =>
    let next := n * 10 + Decimal.digitValue c
    if 0x1_0000_0000_0000_0000 ≤ next then (n, c :: rest) else splitSignificand next rest

/-- What follows the first digit with which a number reaches `2 ^ 31`. -/
def behindOverflow : Nat → List Char → List Char
  | _, [] => []
  | n, c :: rest =>
    let next := n * 10 + Decimal.digitValue c
    if 0x8000_0000 ≤ next then rest else behindOverflow next rest

def exponentPart (negative : Bool) (significand : Nat) (start : Int) (s : List Char) :
    Reading Binary64 :=
  let s := s.drop 1
  let (isNegative, s) :=
    match s with
    | '+' :: rest => (false, rest)
    | '-' :: rest => (true, rest)
    | _ => (false, s)
  match s with
  | [] => .error (here "EOF while parsing a value" [])
  | c :: _ =>
    if !c.isDigit then .error (behind "invalid number" s)
    else
      let (digits, rest) := Decimal.span s
      let exponent : Int := Decimal.value digits
      if 0x8000_0000 ≤ exponent then
        if significand ≠ 0 ∧ !isNegative then
          .error (here "number out of range" (behindOverflow 0 s))
        else .ok (Binary64.zero negative, rest)
      else
        let exponent := if isNegative then start - exponent else start + exponent
        match scaled? negative significand exponent with
        | some x => .ok (x, rest)
        | none => .error (here "number out of range" rest)

def closeFloat (negative : Bool) (significand : Nat) (exponent : Int) (s : List Char) :
    Reading Binary64 :=
  match s with
  | 'e' :: _ => exponentPart negative significand exponent s
  | 'E' :: _ => exponentPart negative significand exponent s
  | _ =>
    match scaled? negative significand exponent with
    | some x => .ok (x, s)
    | none => .error (here "number out of range" s)

def fractionPart (negative : Bool) (significand : Nat) (exponent : Int) (s : List Char) :
    Reading Binary64 :=
  let (digits, rest) := Decimal.span (s.drop 1)
  if digits.isEmpty then
    .error (if rest.isEmpty then here "EOF while parsing a value" []
      else behind "invalid number" rest)
  else
    let (significand, surplus) := splitSignificand significand digits
    closeFloat negative significand (exponent - (digits.length - surplus.length : Nat)) rest

def number (negative : Bool) (s : List Char) : Reading Number :=
  let float (r : Reading Binary64) : Reading Number := r.map fun (x, rest) => (.float x, rest)
  match s with
  | [] => .error (here "EOF while parsing a value" [])
  | _ :: _ =>
    match integerDigits s with
    | .error e => .error e
    | .ok (digits, rest) =>
      let (significand, surplus) := splitSignificand 0 digits
      match rest with
      | '.' :: _ => float (fractionPart negative significand surplus.length rest)
      | 'e' :: _ => float (exponentPart negative significand surplus.length rest)
      | 'E' :: _ => float (exponentPart negative significand surplus.length rest)
      | _ =>
        if surplus.isEmpty ∧ !negative then .ok (.integer significand, rest)
        else if surplus.isEmpty ∧ significand ≠ 0 ∧ significand ≤ 0x8000_0000_0000_0000 then
          .ok (.integer (-significand), rest)
        else float (closeFloat negative significand surplus.length rest)

/-- Passes over the exponent of a number, its letter included. -/
def skipExponent (s : List Char) : Reading Unit :=
  let s := s.drop 1
  let s :=
    match s with
    | '+' :: rest => rest
    | '-' :: rest => rest
    | _ => s
  if s.head?.any Char.isDigit then .ok ((), (Decimal.span s).2) else .error (behind "invalid number" s)

def skipNumber (s : List Char) : Reading Unit :=
  let close (s : List Char) : Reading Unit :=
    match s with
    | 'e' :: _ => skipExponent s
    | 'E' :: _ => skipExponent s
    | _ => .ok ((), s)
  match integerDigits s with
  | .error e => .error e
  | .ok (_, rest) =>
    match rest with
    | '.' :: more =>
      if more.head?.any Char.isDigit then close (Decimal.span more).2
      else .error (behind "invalid number" more)
    | _ => close rest

end AttributeSchema.Json
