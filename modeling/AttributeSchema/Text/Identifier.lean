import AttributeSchema.Text.IdentifierTable
/-!
# Identifier characters

An identifier starts with an underscore or a letter and goes on with letters, digits, underscores and
marks. Letters and digits of ASCII are decided directly, all others by the tables of the Unicode
properties `XID_Start` and `XID_Continue`.
-/

namespace AttributeSchema.Text


def startsIdentifier (c : Char) : Bool :=
  c == '_' || (if c.toNat < 128 then c.isAlpha else identifierStart.contains c)

/-- Whether `c` may follow in an identifier. -/
def continuesIdentifier (c : Char) : Bool :=
  if c.toNat < 128 then c.isAlphanum || c == '_' else identifierContinue.contains c

end AttributeSchema.Text
