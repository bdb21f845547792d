import AttributeSchema.Json.Value
import AttributeSchema.Text.Decimal
/-!
# JSON text

A value is written on one line without blanks, or on several lines with an indentation.
-/

namespace AttributeSchema.Json

def hexDigit (n : Nat) : Char := Nat.digitChar n

def escapeChar (c : Char) : List Char :=
  if c = '"' then ['\\', '"']
  else if c = '\\' then ['\\', '\\']
  else if c = '\x08' then ['\\', 'b']
  else if c = '\x0c' then ['\\', 'f']
  else if c = '\n' then ['\\', 'n']
  else if c = '\r' then ['\\', 'r']
  else if c = '\t' then ['\\', 't']
  else if c.toNat < 32 then ['\\', 'u', '0', '0', hexDigit (c.toNat / 16), hexDigit (c.toNat % 16)]
  else [c]

def quote (s : String) : List Char := '"' :: s.toList.flatMap escapeChar ++ ['"']

def integerText (n : Int) : List Char :=
  if n < 0 then '-' :: Text.Decimal.digits n.natAbs else Text.Decimal.digits n.natAbs

def leafText : Value → List Char
  | .null => ['n', 'u', 'l', 'l']
  | .bool true => ['t', 'r', 'u', 'e']
  | .bool false => ['f', 'a', 'l', 's', 'e']
  | .integer n => integerText n
  | .float x => x.text.toList
  | .string s => quote s
  | .array _ => ['[', ']']
  | .object _ => ['{', '}']

mutual
def compactChars : Value → List Char
  | .array items => '[' :: compactItems items ++ [']']
  | .object entries => '{' :: compactEntries entries ++ ['}']
  | leaf => leafText leaf

def compactItems : List Value → List Char
  | [] => []
  | [v] => compactChars v
  | v :: rest => compactChars v ++ ',' :: compactItems rest

def compactEntries : List (String × Value) → List Char
  | [] => []
  | [(k, v)] => quote k ++ ':' :: compactChars v
  | (k, v) :: rest => quote k ++ ':' :: compactChars v ++ ',' :: compactEntries rest
end

def compact (v : Value) : String := String.ofList (compactChars v)

/-- A line feed and the indentation of a line, which is so many steps of blanks. -/
def newLine (step depth : Nat) : List Char := '\n' :: List.replicate (step * depth) ' '

mutual
def prettyChars (step depth : Nat) : Value → List Char
  | .array [] => ['[', ']']
  | .array (v :: rest) =>
    '[' :: prettyItems step (depth + 1) (v :: rest) ++ newLine step depth ++ [']']
  | .object [] => ['{', '}']
  | .object (e :: rest) =>
    '{' :: prettyEntries step (depth + 1) (e :: rest) ++ newLine step depth ++ ['}']
  | leaf => leafText leaf

def prettyItems (step depth : Nat) : List Value → List Char
  | [] => []
  | [v] => newLine step depth ++ prettyChars step depth v
  | v :: rest => newLine step depth ++ prettyChars step depth v ++ ',' :: prettyItems step depth rest

def prettyEntries (step depth : Nat) : List (String × Value) → List Char
  | [] => []
  | [(k, v)] => newLine step depth ++ quote k ++ ':' :: ' ' :: prettyChars step depth v
  | (k, v) :: rest =>
    newLine step depth ++ quote k ++ ':' :: ' ' :: prettyChars step depth v ++
      ',' :: prettyEntries step depth rest
end

/-- The text of a value on several lines, where each level is indented by a step of blanks. -/
def pretty (step : Nat) (v : Value) : String := String.ofList (prettyChars step 0 v)

end AttributeSchema.Json
