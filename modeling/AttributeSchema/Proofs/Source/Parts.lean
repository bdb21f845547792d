import AttributeSchema.Source.Construct
/-!
# The parts of statements

All expressions that an expression or a statement consists of, at any depth, and what they call. Types and
patterns have no such parts, and the tokens of an invocation are not looked into.
-/

namespace AttributeSchema.Source

mutual

def Expr.parts (e : Expr) : List Expr :=
  e :: match e with
    | .attributed _ value => value.parts
    | .unary _ operand => operand.parts
    | .reference _ target => target.parts
    | .rawReference _ target => target.parts
    | .binary left _ right => left.parts ++ right.parts
    | .parenthesized inner => inner.parts
    | .cast value _ => value.parts
    | .call function arguments _ => function.parts ++ Expr.allParts arguments
    | .methodCall receiver _ arguments _ => receiver.parts ++ Expr.allParts arguments
    | .field base _ => base.parts
    | .attempt value => value.parts
    | .index base index => base.parts ++ index.parts
    | .tuple elements _ => Expr.allParts elements
    | .array elements _ => Expr.allParts elements
    | .repeated value length => value.parts ++ length.parts
    | .range first _ last => Expr.optionParts first ++ Expr.optionParts last
    | .closure _ _ _ _ _ body => body.parts
    | .struct path fields _ => path.parts ++ FieldValue.allParts fields
    | .letMatch _ value => value.parts
    | .ifThen condition body => condition.parts ++ Stmt.allParts body
    | .ifElse condition body otherwise => condition.parts ++ Stmt.allParts body ++ otherwise.parts
    | .select value _ arms => value.parts ++ Arm.allParts arms
    | .forLoop _ _ values _ body => values.parts ++ Stmt.allParts body
    | .whileLoop _ condition _ body => condition.parts ++ Stmt.allParts body
    | .endlessLoop _ _ body => Stmt.allParts body
    | .block _ _ body => Stmt.allParts body
    | .assign target value => target.parts ++ value.parts
    | .giveBack value => Expr.optionParts value
    | .yield value => Expr.optionParts value
    | .leave _ value => Expr.optionParts value
    | _ => []

def Expr.allParts : List Expr → List Expr
  | [] => []
  | e :: rest => e.parts ++ Expr.allParts rest

def Expr.optionParts : Option Expr → List Expr
  | none => []
  | some e => e.parts

def FieldValue.allParts : List FieldValue → List Expr
  | [] => []
  | .member _ _ value :: rest => value.parts ++ FieldValue.allParts rest
  | .short _ _ :: rest => FieldValue.allParts rest
  | .others base :: rest => Expr.optionParts base ++ FieldValue.allParts rest

def Arm.allParts : List Arm → List Expr
  | [] => []
  | .mk _ _ guard body _ :: rest => Expr.optionParts guard ++ body.parts ++ Arm.allParts rest

def Stmt.parts : Stmt → List Expr
  | .bind _ _ value otherwise => Expr.optionParts value ++ Expr.optionParts otherwise
  | .expr value _ => value.parts
  | _ => []

def Stmt.allParts : List Stmt → List Expr
  | [] => []
  | s :: rest => s.parts ++ Stmt.allParts rest

end

/-! ## What parts call -/

def Expr.isCallOn (receiver : String) (methods : List String) : Expr → Bool
  | .methodCall (.path false [.plain name]) method _ _ =>
    name == receiver && methods.contains method.name
  | _ => false

def Expr.calledFunction? : Expr → Option String
  | .call (.path false [.plain name]) _ _ => some name
  | _ => none

/-- The type whose function `new` an expression calls. -/
def Expr.builtType? : Expr → Option String
  | .call (.path false [.plain type, .plain "new"]) _ _ => some type
  | _ => none

def Stmt.callsOn (receiver : String) (methods : List String) (s : Stmt) : Bool :=
  s.parts.any (Expr.isCallOn receiver methods)

end AttributeSchema.Source
