import AttributeSchema.Source.Number
import AttributeSchema.Source.Syntax
/-!
# Shapes of expressions

How an expression is laid out depends on whether it brings its own braces, whether it is a statement
without a semicolon, and where its line may end.
-/

namespace AttributeSchema.Source

/-- Whether an expression brings its own braces or brackets, so that it may stand alone between
parentheses. -/
def Expr.isBlocklike : Expr → Bool
  | .array .. => true
  | .block .. => true
  | .closure .. => true
  | .struct .. => true
  | .tuple .. => true
  | _ => false

/-- Whether a name is so short that a call on it stays on its line. -/
def Expr.isShortName : Expr → Bool
  | .path false [.plain n] => n.utf8ByteSize ≤ 4
  | _ => false

def Expr.breaksBeforeBrace : Expr → Bool
  | .assign .. => true
  | .binary .. => true
  | .cast .. => true
  | .field .. => true
  | .index .. => true
  | .methodCall .. => true
  | .attributed _ value => value.breaksBeforeBrace
  | .call function .. => function.breaksBeforeBrace
  | .letMatch _ value => value.breaksBeforeBrace
  | .parenthesized inner => inner.breaksBeforeBrace
  | .range _ _ (some last) => last.breaksBeforeBrace
  | .reference _ target => target.breaksBeforeBrace
  | .rawReference _ target => target.breaksBeforeBrace
  | .giveBack (some value) => value.breaksBeforeBrace
  | .leave _ (some value) => value.breaksBeforeBrace
  | .yield (some value) => value.breaksBeforeBrace
  | .attempt value => value.breaksBeforeBrace
  | .unary _ operand => operand.breaksBeforeBrace
  | _ => false

def assigningOperators : List String :=
  ["+=", "-=", "*=", "/=", "%=", "^=", "&=", "|=", "<<=", ">>="]

/-- Whether an expression gets a semicolon as a statement even where it needs none. -/
def Expr.wantsSemicolon : Expr → Bool
  | .assign .. => true
  | .giveBack _ => true
  | .yield _ => true
  | .leave .. => true
  | .skip _ => true
  | .binary _ operator _ => assigningOperators.contains operator
  | .attributed _ value => value.wantsSemicolon
  | _ => false

/-- Whether an expression loses the semicolon behind it: a loop with a head, and a condition with
nothing for the other case. -/
def Expr.losesSemicolon : Expr → Bool
  | .forLoop .. => true
  | .whileLoop .. => true
  | .ifThen .. => true
  | .ifElse _ _ otherwise => otherwise.losesSemicolon
  | .attributed _ value => value.losesSemicolon
  | _ => false

def Expr.endsStatement : Expr → Bool
  | .invocation _ _ .brace _ => true
  | e => e.isClosed

/-- Whether an expression can start a statement: no operand that ends in a block may be its first one,
or the statement would end there. -/
def Expr.canStartStatement : Expr → Bool
  | .assign target _ => target.canStartStatement
  | .field base _ => base.canStartStatement
  | .methodCall receiver .. => receiver.canStartStatement
  | .attempt value => value.canStartStatement
  | .attributed _ value => value.canStartStatement
  | .binary left .. => !left.endsStatement && left.canStartStatement
  | .call function .. => !function.endsStatement && function.canStartStatement
  | .cast value _ => !value.endsStatement && value.canStartStatement
  | .index base _ => !base.endsStatement && base.canStartStatement
  | .range (some first) .. => !first.endsStatement && first.canStartStatement
  | _ => true

/-- Whether the body of a closure needs no braces when its line breaks. -/
def Expr.standsAlone : Expr → Bool
  | .call .. => true
  | .select .. => true
  | e => e.isBlocklike

/-- Whether a literal is an integer, a character, a byte or a truth value. -/
def isSmallLiteral (text : String) : Bool :=
  text == "true" || text == "false" || isInteger text ||
    match text.toList with
    | '\'' :: _ => true
    | 'b' :: '\'' :: _ => true
    | _ => false

def Expr.endsWithPoint : Expr → Bool
  | .literal text => text.toList.getLast? == some '.'
  | _ => false

def areSmall (elements : List Expr) : Bool :=
  elements.all fun
    | .literal text => isSmallLiteral text
    | _ => false

/-- What an arm runs without the braces around a single expression. -/
def Expr.armBody : Expr → Expr
  | .block .plain [] [.expr inner false] => inner.armBody
  | e => e

def arePlain (cases : List Pat) : Bool :=
  cases.all fun
    | .value (.literal _) => true
    | .wildcard => true
    | _ => false

end AttributeSchema.Source
