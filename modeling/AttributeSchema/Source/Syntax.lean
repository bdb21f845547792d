import AttributeSchema.Source.Token
/-!
# Syntax trees

The part of the target language that descriptors may name (paths and types) and that generated modules
consist of (expressions, statements and items).
-/

namespace AttributeSchema.Source

inductive BoundsKeyword
  | dynamic
  | abstract
  | absent
  deriving DecidableEq, Repr, Inhabited

structure FunctionHead where
  isUnsafe : Bool
  /-- The literal that names the calling convention, absent or present, after its keyword. -/
  convention : Option (Option String)
  deriving Repr, Inhabited

structure ClosureHead where
  isConst : Bool
  isStatic : Bool
  isAsync : Bool
  isMove : Bool
  deriving DecidableEq, Repr, Inhabited

def ClosureHead.plain : ClosureHead := ⟨false, false, false, false⟩

inductive BlockHead
  | plain
  | labelled (label : String)
  /-- The word for what the language does not check. -/
  | unchecked
  | constant
  | attempt
  /-- The words for what runs later; it may own what it uses. -/
  | later (isMove : Bool)
  deriving DecidableEq, Repr, Inhabited

mutual

inductive Ty
  /-- A path; `isGlobal` means that it starts with a double colon. -/
  | path (isGlobal : Bool) (segments : List Segment)
  /-- A path below a type; the first `traitLength` segments name the trait. -/
  | qualified (self : Ty) (isGlobal : Bool) (traitLength : Nat) (segments : List Segment)
  | reference (lifetime : Option String) (isMutable : Bool) (target : Ty)
  | pointer (isMutable : Bool) (target : Ty)
  | slice (element : Ty)
  | array (element : Ty) (length : Expr)
  | tuple (elements : List Ty) (hasTrailingComma : Bool)
  | parenthesized (inner : Ty)
  | never
  | inferred
  | bounded (keyword : BoundsKeyword) (bounds : List Bound) (hasTrailingPlus : Bool)
  | function (binder : Option Binder) (head : FunctionHead) (parameters : List Parameter)
      (hasTrailingComma : Bool)
  | functionTo (binder : Option Binder) (head : FunctionHead) (parameters : List Parameter)
      (hasTrailingComma : Bool) (result : Ty)
  | invocation (isGlobal : Bool) (segments : List Segment) (delimiter : Delimiter)
      (body : List Token)
  /-- A type of which only the tokens are kept. -/
  | verbatim (tokens : List Token)

inductive Parameter
  | mk (attributes : List Token) (name : Option String) (type : Ty)
  /-- The mark of a function that takes any further arguments. -/
  | variadic (attributes : List Token) (name : Option String)

inductive Segment
  | plain (name : String)
  /-- Arguments between angle brackets, after a double colon or not. -/
  | angle (name : String) (hasColons : Bool) (arguments : List Argument) (hasTrailingComma : Bool)
  | call (name : String) (inputs : List Ty) (hasTrailingComma : Bool)
  | callTo (name : String) (inputs : List Ty) (hasTrailingComma : Bool) (result : Ty)

inductive Argument
  | lifetime (name : String)
  | type (type : Ty)
  | const (value : Expr)
  | assocType (target : Segment) (type : Ty)
  | assocConst (target : Segment) (value : Expr)
  | constraint (target : Segment) (bounds : List Bound) (hasTrailingPlus : Bool)

inductive Bound
  | lifetime (name : String)
  | trait (isParenthesized isMaybe : Bool) (binder : Option Binder) (isGlobal : Bool)
      (segments : List Segment)
  /-- The parameters that an abstract type depends on. -/
  | captures (names : List String) (hasTrailingComma : Bool)
  /-- A bound of which only the tokens are kept. -/
  | verbatim (tokens : List Token)

inductive Binder
  | mk (parameters : List GenericParameter) (hasTrailingComma : Bool)

inductive GenericParameter
  | lifetime (attributes : List Token) (name : String) (bounds : List String) (hasTrailingPlus : Bool)
  | type (attributes : List Token) (name : String) (bounds : List Bound) (hasTrailingPlus : Bool)
  | typeOr (attributes : List Token) (name : String) (bounds : List Bound) (hasTrailingPlus : Bool)
      (default : Ty)
  | const (attributes : List Token) (name : String) (type : Ty)
  | constOr (attributes : List Token) (name : String) (type : Ty) (default : Expr)

inductive Pat
  /-- A new name, and a pattern for what it stands for. -/
  | name (isReference isMutable : Bool) (name : String) (inner : Option Pat)
  | wildcard
  /-- Any number of further parts. -/
  | rest
  /-- A constant, an invocation or a range. -/
  | value (value : Expr)
  | reference (isMutable : Bool) (target : Pat)
  | parenthesized (inner : Pat)
  | tuple (parts : List Pat) (hasTrailingComma : Bool)
  | slice (parts : List Pat) (hasTrailingComma : Bool)
  | constructor (path : Expr) (parts : List Pat) (hasTrailingComma : Bool)
  | struct (path : Expr) (fields : List FieldPat) (hasTrailingComma : Bool)
  /-- Several patterns, perhaps with a bar in front of all of them. -/
  | choice (hasBar : Bool) (cases : List Pat)
  | typed (inner : Pat) (type : Ty)
  | attributed (attributes : List Token) (inner : Pat)
  /-- A pattern of which only the tokens are kept. -/
  | verbatim (tokens : List Token)

inductive FieldPat
  | member (attributes : List Token) (name : String) (pattern : Pat)
  /-- A new name that is the name of the member too. -/
  | short (attributes : List Token) (pattern : Pat)
  /-- The mark for all other members. -/
  | others (attributes : List Token)

inductive Expr
  | literal (text : String)
  | path (isGlobal : Bool) (segments : List Segment)
  /-- A path below a type; the first `traitLength` segments name the trait. -/
  | qualified (self : Ty) (isGlobal : Bool) (traitLength : Nat) (segments : List Segment)
  | inferred
  | attributed (attributes : List Token) (value : Expr)
  | unary (operator : String) (operand : Expr)
  | reference (isMutable : Bool) (target : Expr)
  | rawReference (isMutable : Bool) (target : Expr)
  | binary (left : Expr) (operator : String) (right : Expr)
  | parenthesized (inner : Expr)
  | cast (value : Expr) (type : Ty)
  | call (function : Expr) (arguments : List Expr) (hasTrailingComma : Bool)
  | methodCall (receiver : Expr) (method : Segment) (arguments : List Expr)
      (hasTrailingComma : Bool)
  | field (base : Expr) (name : String)
  | attempt (value : Expr)
  | index (base index : Expr)
  | tuple (elements : List Expr) (hasTrailingComma : Bool)
  | array (elements : List Expr) (hasTrailingComma : Bool)
  /-- An array of a number of equal values. -/
  | repeated (value length : Expr)
  | range (first : Option Expr) (isClosed : Bool) (last : Option Expr)
  | closure (binder : Option Binder) (head : ClosureHead) (parameters : List Pat)
      (hasTrailingComma : Bool) (result : Option Ty) (body : Expr)
  | struct (path : Expr) (fields : List FieldValue) (hasTrailingComma : Bool)
  | letMatch (pattern : Pat) (value : Expr)
  | ifThen (condition : Expr) (body : List Stmt)
  | ifElse (condition : Expr) (body : List Stmt) (otherwise : Expr)
  | select (value : Expr) (attributes : List Token) (arms : List Arm)
  | forLoop (label : Option String) (pattern : Pat) (values : Expr) (attributes : List Token)
      (body : List Stmt)
  | whileLoop (label : Option String) (condition : Expr) (attributes : List Token)
      (body : List Stmt)
  | endlessLoop (label : Option String) (attributes : List Token) (body : List Stmt)
  | block (head : BlockHead) (attributes : List Token) (body : List Stmt)
  | assign (target value : Expr)
  | giveBack (value : Option Expr)
  | yield (value : Option Expr)
  /-- Leaves a loop or a block. -/
  | leave (label : Option String) (value : Option Expr)
  /-- Goes on with the next round of a loop. -/
  | skip (label : Option String)
  | invocation (isGlobal : Bool) (segments : List Segment) (delimiter : Delimiter)
      (body : List Token)
  /-- An expression of which only the tokens are kept. -/
  | verbatim (tokens : List Token)

inductive FieldValue
  | member (attributes : List Token) (name : String) (value : Expr)
  | short (attributes : List Token) (name : String)
  /-- The mark for all other members, and what has them. -/
  | others (base : Option Expr)

inductive Arm
  | mk (attributes : List Token) (pattern : Pat) (guard : Option Expr) (body : Expr)
      (hasComma : Bool)

inductive Stmt
  | bind (attributes : List Token) (pattern : Pat) (value : Option Expr)
      (otherwise : Option Expr)
  | expr (value : Expr) (hasSemicolon : Bool)
  | invocation (attributes : List Token) (isGlobal : Bool) (segments : List Segment)
      (delimiter : Delimiter) (body : List Token) (hasSemicolon : Bool)
  | empty
  /-- A definition, of which the tokens are kept. -/
  | item (tokens : List Token)

end

instance : Inhabited Ty := ⟨.never⟩
instance : Inhabited Segment := ⟨.plain ""⟩
instance : Inhabited Pat := ⟨.wildcard⟩
instance : Inhabited Expr := ⟨.literal ""⟩
instance : Inhabited Stmt := ⟨.empty⟩

structure Path where
  isGlobal : Bool
  segments : List Segment
  deriving Inhabited

def Segment.name : Segment → String
  | .plain name => name
  | .angle name .. => name
  | .call name .. => name
  | .callTo name .. => name

def Segment.isBare : Segment → Bool
  | .plain _ => true
  | .angle _ _ arguments _ => arguments.isEmpty
  | _ => false

def Segment.isPlain : Segment → Bool
  | .plain _ => true
  | _ => false

/-- Whether an expression is a block or ends in one, so that it is a statement without a semicolon and an
arm without a comma. What runs later is not. -/
def Expr.isClosed : Expr → Bool
  | .ifThen .. => true
  | .ifElse .. => true
  | .select .. => true
  | .forLoop .. => true
  | .whileLoop .. => true
  | .endlessLoop .. => true
  | .block (.later _) .. => false
  | .block .. => true
  | .attributed _ value => value.isClosed
  | _ => false

end AttributeSchema.Source
