import AttributeSchema.Source.Grammar.Items
import AttributeSchema.Source.Lexer
/-!
# Reading paths and types

The grammar is built level by level: the constructs of a level contain those of the level below it. Each
level of a construct takes tokens, so a multiple of the number of tokens is enough levels for a text.
-/

namespace AttributeSchema.Source

/-- The grammar whose constructs contain constructs of `g`. -/
def Grammar.above (g : Grammar) : Grammar where
  type := g.anyType
  bound := g.anyBound
  expression := g.anyExpression
  operand := g.anyOperand
  operations := g.anyOperations
  standalone := g.anyStandalone
  body := g.anyBody
  pattern := g.anyPattern
  item := g.anyItem
  traitItem := g.anyTraitItem
  implItem := g.anyImplItem
  foreignItem := g.anyForeignItem
  useTree := g.anyUseTree

def Grammar.ofDepth : Nat → Grammar
  | 0 => .empty
  | depth + 1 => (Grammar.ofDepth depth).above

namespace Parser

def grammarFor (tokens : Tokens) : Grammar := Grammar.ofDepth (16 * (Token.sizes tokens + 1))

def whole? {α : Type} (reader : Grammar → Reader α) (text : String) : Option α := do
  let tokens ← Lexer.tokens? text
  match reader (grammarFor tokens) tokens with
  | some (value, []) => some value
  | _ => none

/-- The identifier that a text spells, blanks and comments around it left out. -/
def ident? (text : String) : Option String :=
  match Lexer.tokens? text with
  | some [.word w] => if Ahead.isName w then some w else none
  | _ => none

def type? (text : String) : Option Ty := whole? (fun g => g.type true) text

def path? (text : String) : Option Path := whole? (fun g => g.path false) text

end Parser

end AttributeSchema.Source
