import AttributeSchema.Source.Grammar.Expressions
/-!
# The grammar of statements

A statement is a binding, an item, an invocation or an expression. An expression needs a semicolon before
the next statement unless it ends in a block.
-/

namespace AttributeSchema.Source.Grammar

open Reader

/-- Whether an invocation that stands by itself comes next: a plain path, an exclamation mark and a
brace, of which no point or question mark makes an operand. -/
def startsBracedInvocation : Test := fun s =>
  match plainPath s with
  | none => false
  | some (_, rest) =>
    Ahead.mark "!" rest && Ahead.second (Ahead.group .brace) rest &&
      !((Ahead.third (Ahead.mark ".") rest && !Ahead.third (Ahead.mark "..") rest) ||
        Ahead.third (Ahead.mark "?") rest)

def startsNamedInvocation : Test := fun s =>
  match plainPath s with
  | none => false
  | some (_, rest) =>
    Ahead.mark "!" rest && Ahead.second (Ahead.oneOf [Ahead.name, Ahead.word "try"]) rest

def startsItem : Test := fun s =>
  let second (t : Test) : Bool := Ahead.second t s
  let third (t : Test) : Bool := Ahead.third t s
  let bar := Ahead.mark "|"
  Ahead.wordOf ["pub", "extern", "use", "fn", "mod", "type", "struct", "enum", "trait", "impl",
      "macro"] s ||
    (Ahead.word "crate" s && !second (Ahead.mark "::")) ||
    (Ahead.word "static" s &&
      (second (Ahead.word "mut") ||
        (second Ahead.name &&
          !(second (Ahead.word "async") && (third (Ahead.word "move") || third bar))))) ||
    (Ahead.word "const" s &&
      !(second (Ahead.group .brace) || second (Ahead.word "static") ||
        (second (Ahead.word "async") && !third (Ahead.wordOf ["unsafe", "extern", "fn"])) ||
        second (Ahead.word "move") || second bar)) ||
    (Ahead.word "unsafe" s && !second (Ahead.group .brace)) ||
    (Ahead.word "async" s && second (Ahead.wordOf ["unsafe", "extern", "fn"])) ||
    (Ahead.word "union" s && second Ahead.name) ||
    (Ahead.word "auto" s && second (Ahead.word "trait")) ||
    (Ahead.word "default" s && second (Ahead.wordOf ["unsafe", "impl"])) ||
    startsNamedInvocation s

def endInBlock (tokens : Tokens) : Bool :=
  match tokens.getLast? with
  | some (.group .brace _) => true
  | _ => false

/-- A binding behind its attributes. Only a value that does not end in a block may be followed by what
runs when the pattern does not match. -/
def binding (g : Grammar) (attributes : Tokens) : Reader Stmt := do
  let _ ← word "let"
  let pattern ← g.pattern
  let type ← maybe (Ahead.mark ":") do
    let _ ← mark ":"
    g.type true
  let value ← maybe (Ahead.mark "=") do
    let _ ← mark "="
    g.expression true
  let isOpen := value.any fun e => !endInBlock e.tokens
  let otherwise ← maybe (fun s => isOpen && Ahead.word "else" s) do
    let _ ← anyWord
    return .block .plain [] (← g.block)
  let _ ← mark ";"
  return .bind attributes ((type.map (Pat.typed pattern)).getD pattern) value otherwise

def standingInvocation (g : Grammar) (attributes : Tokens) : Reader Stmt := do
  match ← invocationOf (← g.valuePath) with
  | .invocation isGlobal segments delimiter body =>
    return .invocation attributes isGlobal segments delimiter body (← hasMark ";")
  | _ => refuse

/-- The statement that an expression is, and whether a further one may follow it directly. An invocation
that is complete stands by itself. -/
def expressionStatement (attributes : Tokens) (value : Expr) (hasSemicolon : Bool) : Stmt × Bool :=
  match value with
  | .invocation isGlobal segments delimiter body =>
    if hasSemicolon || delimiter = .brace then
      (.invocation attributes isGlobal segments delimiter body hasSemicolon, true)
    else (.expr (value.withAttributes attributes) false, false)
  | _ => (.expr (value.leftAttributed attributes) hasSemicolon, hasSemicolon || value.isClosed)

def statement (g : Grammar) : Reader (Stmt × Bool) := fun whole => (do
  let attributes ← g.outerAttributes
  let s ← get
  if startsBracedInvocation s then return (← g.standingInvocation attributes, true)
  else if Ahead.word "let" s then return (← g.binding attributes, true)
  else if startsItem s then
    set whole
    return (.item (← g.item), true)
  else
    let value ← g.standalone
    return expressionStatement attributes value (← hasMark ";") : Reader (Stmt × Bool)) whole

/-- At most `fuel` statements up to the end. -/
def statementsUpTo (g : Grammar) : Nat → Reader (List Stmt)
  | 0 => refuse
  | fuel + 1 => do
    if ← hasMark ";" then return .empty :: (← g.statementsUpTo fuel)
    else if ← next Ahead.atEnd then return []
    else
      let (first, isComplete) ← g.statement
      if !isComplete && !Ahead.atEnd (← get) then refuse
      else return first :: (← g.statementsUpTo fuel)

def anyBody (g : Grammar) : Reader (List Stmt) := do
  g.statementsUpTo ((← get).length + 1)

end AttributeSchema.Source.Grammar
