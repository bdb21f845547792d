import AttributeSchema.Source.Reading
import AttributeSchema.Source.Spelling
/-!
# The grammar as a record of readers

The constructs of the language contain each other, so each rule is written over a record of readers for
the constructs one level further in. `Grammar` is that record. The record itself is built level by level
once all rules are there. This module also has the rules that everything else uses: paths of plain names,
invocations and attributes.
-/

namespace AttributeSchema.Source

structure Grammar where
  /-- A type. Only where `allowPlus` holds may several bounds be joined at its end. -/
  type : (allowPlus : Bool) → Reader Ty
  /-- A bound. Only where they are allowed may it name captured parameters, or be a constant one. -/
  bound : (allowCaptures allowConst : Bool) → Reader Bound
  /-- An expression. Only where `allowStruct` holds may a brace continue a path. -/
  expression : (allowStruct : Bool) → Reader Expr
  /-- An expression without binary operators. -/
  operand : (allowStruct : Bool) → Reader Expr
  /-- The operators behind an operand that bond at least as strongly as `least`. -/
  operations : (allowStruct : Bool) → (least : Nat) → Expr → Reader Expr
  /-- An expression that starts a statement, which ends where a block of it ends. -/
  standalone : Reader Expr
  /-- The statements between braces, up to the end. -/
  body : Reader (List Stmt)
  /-- A pattern that is no choice. -/
  pattern : Reader Pat
  item : Reader Tokens
  traitItem : Reader Tokens
  implItem : Reader Tokens
  foreignItem : Reader Tokens
  /-- The tree of an import. Only where `allowGlobal` holds may its groups have global paths. -/
  useTree : (allowGlobal : Bool) → Reader Tokens

def Grammar.empty : Grammar where
  type _ := Reader.refuse
  bound _ _ := Reader.refuse
  expression _ := Reader.refuse
  operand _ := Reader.refuse
  operations _ _ _ := Reader.refuse
  standalone := Reader.refuse
  body := Reader.refuse
  pattern := Reader.refuse
  item := Reader.refuse
  traitItem := Reader.refuse
  implItem := Reader.refuse
  foreignItem := Reader.refuse
  useTree _ := Reader.refuse

namespace Grammar

open Reader

def typeTokens (g : Grammar) : Reader Tokens := do return (← g.type true).tokens

def expressionTokens (g : Grammar) : Reader Tokens := do return (← g.expression true).tokens

def block (g : Grammar) : Reader (List Stmt) := inside .brace g.body

/-! ### Names and invocations -/

/-- Words that a plain path may have although they are keywords. -/
def pathWords : List String := ["super", "self", "Self", "crate"]

def plainName : Test := Ahead.oneOf [Ahead.name, Ahead.wordOf pathWords]

/-- At most `fuel` plain names with double colons between them. -/
def plainNamesUpTo : Nat → Reader Tokens
  | 0 => refuse
  | fuel + 1 =>
    seq [takeIf plainName 1, optional (Ahead.mark "::") (seq [mark "::", plainNamesUpTo fuel])]

def plainPath : Reader Tokens := do
  seq [maybeMark "::", plainNamesUpTo ((← get).length + 1)]

def invocation : Reader Tokens := seq [plainPath, mark "!", anyGroup]

/-! ### Attributes -/

def attributeContent (g : Grammar) : Reader Tokens :=
  let value : Reader Tokens := do
    let isAlone (s : Tokens) : Bool := (literalText s).any (·.2.isEmpty)
    if ← next isAlone then return [literalToken (← literalText)]
    else if ← next fun s => Ahead.mark "#" s && Ahead.second (Ahead.group .bracket) s then refuse
    else g.expressionTokens
  seq
    [do if ← next (Ahead.word "unsafe") then anyWord else plainPath,
      do
        if ← next Ahead.anyGroup then anyGroup
        else optional (Ahead.mark "=") (seq [mark "=", value])]

def outerAttribute (g : Grammar) : Reader Tokens :=
  seq [mark "#", group .bracket g.attributeContent]

def outerAttributes (g : Grammar) : Reader Tokens := repeatWhile (Ahead.mark "#") g.outerAttribute

def innerAttributes (g : Grammar) : Reader Tokens :=
  repeatWhile (fun s => Ahead.mark "#" s && Ahead.second (Ahead.mark "!") s)
    (seq [mark "#", mark "!", group .bracket g.attributeContent])

end Grammar

end AttributeSchema.Source
