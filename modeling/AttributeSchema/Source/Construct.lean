import AttributeSchema.Source.Literal
import AttributeSchema.Source.Syntax
/-!
# Building syntax trees

The trees that generated functions are made of: names, calls, and tests of constructors.
-/

namespace AttributeSchema.Source

def Ty.ofNames (names : List String) : Ty := .path false (names.map .plain)

def Ty.applied (name : String) (arguments : List Ty) : Ty :=
  .path false [.angle name false (arguments.map .type) false]

def Ty.toRef (target : Ty) : Ty := .reference none false target

def Ty.toMutableRef (target : Ty) : Ty := .reference none true target

def Expr.ofNames (names : List String) : Expr := .path false (names.map .plain)

def Expr.ofName (name : String) : Expr := .ofNames [name]

def Expr.invoke (names : List String) (arguments : List Expr) : Expr :=
  .call (.ofNames names) arguments false

def Expr.send (receiver : Expr) (method : String) (arguments : List Expr) : Expr :=
  .methodCall receiver (.plain method) arguments false

def Expr.ofText (text : String) : Expr := .literal (Literal.ofText text)

def Expr.toRef (target : Expr) : Expr := .reference false target

def Expr.toMutableRef (target : Expr) : Expr := .reference true target

def Expr.ofBody (body : List Stmt) : Expr := .block .plain [] body

def Expr.lambda (parameters : List Pat) (body : Expr) : Expr :=
  .closure none .plain parameters false none body

def Expr.ofMembers (name : String) (members : List FieldValue) : Expr :=
  .struct (.ofName name) members false

def Pat.ofName (name : String) : Pat := .name false false name none

def Pat.ofMutableName (name : String) : Pat := .name false true name none

def Pat.wrapped (constructor name : String) : Pat :=
  .constructor (.ofName constructor) [.ofName name] false

/-- An arm without a guard; a comma ends it unless its body is a block. -/
def Arm.ofPattern (pattern : Pat) (body : Expr) : Arm :=
  .mk [] pattern none body
    (match body with
      | .block .. => false
      | _ => true)

def Stmt.define (pattern : Pat) (value : Expr) : Stmt := .bind [] pattern (some value) none

def Stmt.run (value : Expr) : Stmt := .expr value true

def Stmt.result (value : Expr) : Stmt := .expr value false

def Stmt.ifPresent (name : String) (value : Expr) (body : List Stmt) : Stmt :=
  .result (.ifThen (.letMatch (.wrapped "Some" name) value) body)

end AttributeSchema.Source
