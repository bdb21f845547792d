import AttributeSchema.Text.Printable
/-!
# Quoted texts

A text is quoted between double quotes. The quote, the backslash, tab, line feed, carriage return and
null take their short escapes, and every other character without a visible form of its own is written
by its code point.
-/

namespace AttributeSchema.Text

/-- The digits of a number in base sixteen, in lower case and without leading zeros. -/
def hexDigits (n : Nat) : List Char := Nat.toDigits 16 n

def byCodePoint (c : Char) : List Char := '\\' :: 'u' :: '{' :: hexDigits c.toNat ++ ['}']

def escapeChar (c : Char) : List Char :=
  if c = '\t' then ['\\', 't']
  else if c = '\r' then ['\\', 'r']
  else if c = '\n' then ['\\', 'n']
  else if c = '\\' then ['\\', '\\']
  else if c = '"' then ['\\', '"']
  else if extendsGrapheme c || !isPrintable c then byCodePoint c
  else [c]

def escape : List Char → List Char
  | [] => []
  | c :: rest => (if c = '\x00' then ['\\', '0'] else escapeChar c) ++ escape rest

def quoted (s : String) : String := String.ofList ('"' :: escape s.toList ++ ['"'])

end AttributeSchema.Text
