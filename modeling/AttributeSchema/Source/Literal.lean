import AttributeSchema.Text.Quoted
/-!
# String literals

A literal is written like a quoted text, except that a null character before an octal digit is spelled
with two digits of its own, so that it does not run into that digit.
-/

namespace AttributeSchema.Source.Literal

def startsOctal : List Char → Bool
  | [] => false
  | c :: _ => '0' ≤ c && c ≤ '7'

def escape : List Char → List Char
  | [] => []
  | c :: rest =>
    if c = '\x00' then
      (if startsOctal rest then ['\\', 'x', '0', '0'] else ['\\', '0']) ++ escape rest
    else Text.escapeChar c ++ escape rest

def ofText (s : String) : String := String.ofList ('"' :: escape s.toList ++ ['"'])

end AttributeSchema.Source.Literal
