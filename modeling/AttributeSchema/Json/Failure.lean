import AttributeSchema.Text.Decimal
import AttributeSchema.Text.Utf8
/-!
# Faults in JSON texts

Reading goes from left to right over the characters that remain. A fault knows how many bytes lie
behind it, from which its line and column in the whole text follow.
-/

namespace AttributeSchema.Json

open Text.Utf8 (byteCount)

structure Failure where
  message : String
  /-- How many bytes lie behind the fault. -/
  bytesLeft : Nat
  deriving DecidableEq, Repr, Inhabited

namespace Failure

def here (message : String) (rest : List Char) : Failure := ⟨message, byteCount rest⟩

/-- A fault right behind the next byte, or at the end of the text. -/
def behind (message : String) (rest : List Char) : Failure := ⟨message, byteCount rest - 1⟩

/-- The line and the column of a byte offset; columns count the bytes since the last line feed. -/
def locate (line column : Nat) : Nat → List Char → Nat × Nat
  | 0, _ => (line, column)
  | offset, [] => (line, column + offset)
  | offset, c :: rest =>
    if offset < c.utf8Size then (line, column + offset)
    else if c = '\n' then locate (line + 1) 0 (offset - 1) rest
    else locate line (column + c.utf8Size) (offset - c.utf8Size) rest

def describe (f : Failure) (text : List Char) : String :=
  let (line, column) := locate 1 0 (byteCount text - f.bytesLeft) text
  f.message ++ " at line " ++ String.ofList (Text.Decimal.digits line) ++ " column " ++ String.ofList (Text.Decimal.digits column)

end Failure

/-- What reading gives: a value with the characters behind it, or a fault. -/
abbrev Reading (α : Type u) := Except Failure (α × List Char)

end AttributeSchema.Json
