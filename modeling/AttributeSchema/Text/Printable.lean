import AttributeSchema.Text.PrintableTable
/-!
# Visible characters
-/

namespace AttributeSchema.Text

/-- Whether `c` has a visible form of its own. Of ASCII these are the space and the graphic
characters. -/
def isPrintable (c : Char) : Bool :=
  if c.toNat < 128 then 32 ≤ c.toNat && c.toNat < 127 else !unprintable.contains c

/-- Whether `c` only extends the character before it. -/
def extendsGrapheme (c : Char) : Bool :=
  128 ≤ c.toNat && graphemeExtend.contains c

end AttributeSchema.Text
