import AttributeSchema.Source.Grammar.Patterns
/-!
# The grammar of expressions

An expression is an operand with binary operators behind it, each of which bonds with a certain strength.
An expression that starts a statement ends where a block of it ends, unless a point or a question mark
follows.
-/

namespace AttributeSchema.Source

def Expr.isRange : Expr → Bool
  | .range .. => true
  | .attributed _ value => value.isRange
  | _ => false

/-- An expression with attributes in front. One without a tree loses them. -/
def Expr.withAttributes (attributes : Tokens) : Expr → Expr
  | .verbatim tokens => .verbatim tokens
  | e => if attributes.isEmpty then e else .attributed attributes e

/-- An expression as a statement with attributes in front, which belong to its leftmost operand. -/
def Expr.leftAttributed (attributes : Tokens) : Expr → Expr
  | .assign target value => .assign (target.leftAttributed attributes) value
  | .binary left operator right => .binary (left.leftAttributed attributes) operator right
  | .cast value type => .cast (value.leftAttributed attributes) type
  | e => e.withAttributes attributes

namespace Grammar

open Reader

/-! ### Operators -/

def assignment : Nat := 1

def ranging : Nat := 2

def comparison : Nat := 6

def casting : Nat := 13

/-- The binary operators with the strength of their bond, longer spellings before shorter ones. -/
def operators : List (String × Nat) :=
  [("+=", 1), ("-=", 1), ("*=", 1), ("/=", 1), ("%=", 1), ("^=", 1), ("&=", 1), ("|=", 1),
    ("<<=", 1), (">>=", 1), ("&&", 4), ("||", 3), ("<<", 10), (">>", 10), ("==", 6), ("<=", 6),
    ("!=", 6), (">=", 6), ("+", 11), ("-", 11), ("*", 12), ("/", 12), ("%", 12), ("^", 8), ("&", 9),
    ("|", 7), ("<", 6), (">", 6)]

def operator? (s : Tokens) : Option (String × Nat) :=
  operators.find? fun (spelling, _) => Ahead.mark spelling s

def startsAssignment : Test := fun s => Ahead.mark "=" s && !Ahead.mark "=>" s

/-- The strength of what comes next, which is least where no operator does. -/
def nextStrength (s : Tokens) : Nat :=
  match operator? s with
  | some (_, strength) => strength
  | none =>
    if startsAssignment s then assignment
    else if Ahead.mark ".." s then ranging
    else if Ahead.word "as" s then casting
    else 0

def isComparison : Expr → Bool
  | .binary _ operator _ => operators.lookup operator == some comparison
  | _ => false

/-- At most `fuel` operators that bond more strongly than the one before their left operand. -/
def rightSideUpTo (g : Grammar) (allowStruct : Bool) (strength : Nat) : Nat → Expr → Reader Expr
  | 0, _ => refuse
  | fuel + 1, right => do
    let s ← get
    let after := nextStrength s
    if strength < after || (after == strength && strength == assignment) then
      let more ← g.operations allowStruct after right
      if (← get).length == s.length then return more
      else g.rightSideUpTo allowStruct strength fuel more
    else return right

def rightSide (g : Grammar) (allowStruct : Bool) (strength : Nat) : Reader Expr := do
  let first ← g.operand allowStruct
  g.rightSideUpTo allowStruct strength ((← get).length + 1) first

/-- Where the end of a half-open range is missing. -/
def lacksEnd (allowStruct : Bool) : Test := fun s =>
  Ahead.atEnd s || Ahead.mark "," s || Ahead.mark ";" s ||
    (Ahead.mark "." s && !Ahead.mark ".." s) || Ahead.mark "?" s || Ahead.mark "=>" s ||
    (!allowStruct && Ahead.group .brace s) || Ahead.mark "=" s || Ahead.mark "+" s ||
    Ahead.mark "/" s || Ahead.mark "%" s || Ahead.mark "^" s || Ahead.mark ">" s ||
    Ahead.mark "<=" s || Ahead.mark "!=" s || Ahead.mark "-=" s || Ahead.mark "*=" s ||
    Ahead.mark "&=" s || Ahead.mark "|=" s || Ahead.mark "<<=" s || Ahead.word "as" s

/-- A range behind its start: its mark, and its end, which a half-open one may lack. -/
def rangeFrom (g : Grammar) (allowStruct : Bool) (first : Option Expr) : Reader Expr := do
  let isClosed ← rangeMark false
  if !isClosed && lacksEnd allowStruct (← get) then return .range first isClosed none
  else return .range first isClosed (some (← g.rightSide allowStruct ranging))

/-- Whether something comes next that may not follow a cast. -/
def clingsToCast : Test := fun s =>
  (Ahead.mark "." s && !Ahead.mark ".." s) || Ahead.mark "?" s || Ahead.group .bracket s ||
    Ahead.group .parenthesis s

/-- At most `fuel` operators behind an operand that bond at least as strongly as `least`. -/
def operationsUpTo (g : Grammar) (allowStruct : Bool) (least : Nat) : Nat → Expr → Reader Expr
  | 0, _ => refuse
  | fuel + 1, left => do
    let s ← get
    if left.isRange then return left
    else
      match operator? s with
      | some (spelling, strength) =>
        if strength < least then return left
        else if strength == comparison && isComparison left then refuse
        else
          let _ ← mark spelling
          let right ← g.rightSide allowStruct strength
          g.operationsUpTo allowStruct least fuel (.binary left spelling right)
      | none =>
        if least ≤ assignment && startsAssignment s then
          let _ ← mark "="
          let right ← g.rightSide allowStruct assignment
          g.operationsUpTo allowStruct least fuel (.assign left right)
        else if least ≤ ranging && Ahead.mark ".." s then
          g.operationsUpTo allowStruct least fuel (← g.rangeFrom allowStruct (some left))
        else if least ≤ casting && Ahead.word "as" s then
          let _ ← word "as"
          let target ← g.type false
          if clingsToCast (← get) then refuse
          else g.operationsUpTo allowStruct least fuel (.cast left target)
        else return left

/-- The operators behind an operand that bond at least as strongly as `least`. -/
def anyOperations (g : Grammar) (allowStruct : Bool) (least : Nat) (left : Expr) : Reader Expr := do
  g.operationsUpTo allowStruct least ((← get).length + 1) left

def anyExpression (g : Grammar) (allowStruct : Bool) : Reader Expr := do
  g.operations allowStruct 0 (← g.operand allowStruct)

/-! ### Trailers -/

def expressionList (g : Grammar) : Reader (List Expr × Bool) := do
  return listed (← list (g.expression true) Ahead.atEnd ",")

def nextFloat? : Tokens → Option String
  | .literal text :: _ => if isFloat text then some text else none
  | _ => none

/-- What follows a point: a member, or a call of a method. -/
def memberBehind (g : Grammar) (base : Expr) : Reader Expr := do
  if ← next (Ahead.word "await") then return .field base (← anyWordText)
  else
    let isNamed ← next Ahead.name
    let n ← member
    if isNamed && Ahead.mark "::" (← get) then
      let method ← g.angleSegment n
      let (arguments, trailing) ← inside .parenthesis g.expressionList
      return .methodCall base method arguments trailing
    else if isNamed && Ahead.group .parenthesis (← get) then
      let (arguments, trailing) ← inside .parenthesis g.expressionList
      return .methodCall base (.plain n) arguments trailing
    else return .field base n

/-- At most `fuel` calls, members, indices and question marks behind an expression. -/
def trailersUpTo (g : Grammar) : Nat → Expr → Reader Expr
  | 0, _ => refuse
  | fuel + 1, base => do
    let s ← get
    if Ahead.group .parenthesis s then
      let (arguments, trailing) ← inside .parenthesis g.expressionList
      g.trailersUpTo fuel (.call base arguments trailing)
    else if Ahead.mark "." s && !Ahead.mark ".." s && !base.isRange then
      let _ ← mark "."
      match nextFloat? (← get) with
      | some text =>
        let _ ← takeIf (fun _ => true) 1
        match memberNumbers? text with
        | some (numbers, isOpen) =>
          let base := numbers.foldl .field base
          if isOpen then g.trailersUpTo fuel (← g.memberBehind base)
          else g.trailersUpTo fuel base
        | none => refuse
      | none => g.trailersUpTo fuel (← g.memberBehind base)
    else if Ahead.group .bracket s then
      let index ← inside .bracket (g.expression true)
      g.trailersUpTo fuel (.index base index)
    else if Ahead.mark "?" s && !base.isRange then
      let _ ← mark "?"
      g.trailersUpTo fuel (.attempt base)
    else return base

/-- The calls, members, indices and question marks behind an expression. -/
def trailers (g : Grammar) (base : Expr) : Reader Expr := do
  g.trailersUpTo ((← get).length + 1) base

/-! ### Atoms -/

def startsExpression : Test := fun s =>
  (Ahead.anyWord s && !Ahead.word "as" s) || Ahead.anyGroup s || Ahead.literal s ||
    (Ahead.mark "!" s && !Ahead.mark "!=" s) ||
    (Ahead.mark "-" s && !Ahead.mark "-=" s && !Ahead.mark "->" s) ||
    (Ahead.mark "*" s && !Ahead.mark "*=" s) || (Ahead.mark "|" s && !Ahead.mark "|=" s) ||
    (Ahead.mark "&" s && !Ahead.mark "&=" s) || Ahead.mark ".." s ||
    (Ahead.mark "<" s && !Ahead.mark "<=" s && !Ahead.mark "<<=" s) || Ahead.mark "::" s ||
    Ahead.lifetime s || Ahead.mark "#" s

/-- A condition with the block behind it, and further conditions behind `else`. -/
def conditionalUpTo (g : Grammar) : Nat → Reader Expr
  | 0 => refuse
  | fuel + 1 => do
    let _ ← word "if"
    let condition ← g.expression false
    let body ← g.block
    if ← hasWord "else" then
      if ← next (Ahead.word "if") then
        return .ifElse condition body (← g.conditionalUpTo fuel)
      else return .ifElse condition body (.block .plain [] (← g.block))
    else return .ifThen condition body

def conditional (g : Grammar) : Reader Expr := do g.conditionalUpTo ((← get).length + 1)

def loop (g : Grammar) (label : Option String) : Reader Expr := do
  if ← hasWord "while" then
    let condition ← g.expression false
    let (attributes, body) ← g.ownedBlock
    return .whileLoop label condition attributes body
  else if ← hasWord "for" then
    let pattern ← g.choice
    let _ ← word "in"
    let values ← g.expression false
    let (attributes, body) ← g.ownedBlock
    return .forLoop label pattern values attributes body
  else
    let _ ← word "loop"
    let (attributes, body) ← g.ownedBlock
    return .endlessLoop label attributes body

def labelled (g : Grammar) : Reader Expr := do
  let label ← lifetimeText
  let _ ← mark ":"
  if ← next (Ahead.group .brace) then g.blockExpression (.labelled label)
  else g.loop (some label)

/-- The arm of a match. Only one that ends in a block needs no comma before the next one. -/
def arm (g : Grammar) : Reader Arm := do
  let attributes ← g.outerAttributes
  let pattern ← g.choice
  let guard ← maybe (Ahead.word "if") do
    let _ ← anyWord
    g.expression true
  let _ ← mark "=>"
  let value ← g.standalone
  let hasComma ← hasMark ","
  if hasComma || value.isClosed || Ahead.atEnd (← get) then
    return .mk attributes pattern guard value hasComma
  else refuse

def select (g : Grammar) : Reader Expr := do
  let _ ← word "match"
  let value ← g.expression false
  let (attributes, arms) ← inside .brace do
    return (← g.innerAttributes, ← collectWhile (Ahead.none Ahead.atEnd) g.arm)
  return .select value attributes arms

def closureParameter (g : Grammar) : Reader Pat := do
  let attributes ← g.outerAttributes
  let pattern ← g.pattern
  if ← hasMark ":" then return (Pat.typed pattern (← g.type true)).withAttributes attributes
  else return pattern.withAttributes attributes

/-- A closure. One with a result type has a block. -/
def closure (g : Grammar) (allowStruct : Bool) : Reader Expr := do
  let binder ← g.binder
  let isConst ← hasWord "const"
  let isStatic ← hasWord "static"
  let isAsync ← hasWord "async"
  let isMove ← hasWord "move"
  let head : ClosureHead := ⟨isConst, isStatic, isAsync, isMove⟩
  let _ ← mark "|"
  let (parameters, trailing) := listed (← list g.closureParameter (Ahead.mark "|") ",")
  let _ ← mark "|"
  if ← hasMark "->" then
    let result ← g.type true
    return .closure binder head parameters trailing (some result) (.block .plain [] (← g.block))
  else return .closure binder head parameters trailing none (← g.expression allowStruct)

def fieldValue (g : Grammar) : Reader FieldValue := do
  let attributes ← g.outerAttributes
  let isNamed ← next Ahead.name
  let n ← member
  if isNamed && !Ahead.mark ":" (← get) then return .short attributes n
  else
    let _ ← mark ":"
    return .member attributes n (← g.expression true)

/-- At most `fuel` fields of a struct; a base for the others may only be the last. -/
def fieldValuesUpTo (g : Grammar) : Nat → Reader (List FieldValue × Bool)
  | 0 => refuse
  | fuel + 1 => do
    if ← next Ahead.atEnd then return ([], false)
    if ← hasMark ".." then
      return ([.others (← maybe (Ahead.none Ahead.atEnd) (g.expression true))], false)
    else
      let first ← g.fieldValue
      if ← next Ahead.atEnd then return ([first], false)
      let _ ← mark ","
      let (more, trailing) ← g.fieldValuesUpTo fuel
      return (first :: more, more.isEmpty || trailing)

def pathExpression (g : Grammar) (allowStruct : Bool) : Reader Expr := do
  let path ← g.valuePath
  let s ← get
  if path.isPlainPath && Ahead.mark "!" s && !Ahead.mark "!=" s then invocationOf path
  else if allowStruct && Ahead.group .brace s then
    let (fields, trailing) ← inside .brace do g.fieldValuesUpTo ((← get).length + 1)
    return .struct path fields trailing
  else return path

def tupleExpression (g : Grammar) : Reader Expr := do
  match ← inside .parenthesis g.expressionList with
  | ([single], false) => return .parenthesized single
  | (items, trailing) => return .tuple items trailing

def arrayExpression (g : Grammar) : Reader Expr :=
  inside .bracket do
    if ← next Ahead.atEnd then return .array [] false
    else
      let first ← g.expression true
      if ← hasMark ";" then
        let length ← g.expression true
        return .repeated first length
      else if ← next Ahead.atEnd then return .array [first] false
      else
        let _ ← mark ","
        let (more, trailing) ← g.expressionList
        return .array (first :: more) (more.isEmpty || trailing)

/-- What leaves a loop or a block, perhaps with a value: what follows a label and a colon needs
parentheses. -/
def leave (g : Grammar) (allowStruct : Bool) : Reader Expr := do
  let _ ← word "break"
  let label ← maybe Ahead.lifetime lifetimeText
  let s ← get
  if label.isSome && Ahead.mark ":" s then refuse
  else if startsExpression s && (allowStruct || !Ahead.group .brace s) then
    return .leave label (some (← g.expression true))
  else return .leave label none

def keywordValue (g : Grammar) : Reader (Option Expr) := do
  let _ ← anyWord
  maybe startsExpression (g.expression true)

def letExpression (g : Grammar) (allowStruct : Bool) : Reader Expr := do
  let _ ← word "let"
  let pattern ← g.choice
  let _ ← mark "="
  let first ← g.operand allowStruct
  return .letMatch pattern (← g.operations allowStruct comparison first)

/-- Whether a lifetime or the end of a list comes behind a keyword and an angle bracket. -/
def startsClosureBinder : Test := fun s =>
  Ahead.word "for" s && Ahead.second (Ahead.mark "<") s &&
    Ahead.third (Ahead.oneOf [Ahead.lifetime, Ahead.mark ">"]) s

def startsClosure : Test := fun s =>
  Ahead.mark "|" s || Ahead.word "move" s || startsClosureBinder s ||
    (Ahead.word "const" s && !Ahead.second (Ahead.group .brace) s) || Ahead.word "static" s ||
    (Ahead.word "async" s && Ahead.second (Ahead.oneOf [Ahead.mark "|", Ahead.word "move"]) s)

/-- Whether a block that runs later comes next. -/
def startsAsync : Test := fun s =>
  Ahead.word "async" s &&
    (Ahead.second (Ahead.group .brace) s ||
      (Ahead.second (Ahead.word "move") s && Ahead.third (Ahead.group .brace) s))

def keywordBlock (g : Grammar) (head : BlockHead) : Reader Expr := do
  let _ ← anyWord
  return .block head [] (← g.block)

def blockKeyword? (g : Grammar) (s : Tokens) : Option (Reader Expr) :=
  if Ahead.word "if" s then some g.conditional
  else if Ahead.wordOf ["while", "for", "loop"] s then some (g.loop none)
  else if Ahead.word "match" s then some g.select
  else if Ahead.word "try" s && Ahead.second (Ahead.group .brace) s then
    some (g.keywordBlock .attempt)
  else if Ahead.word "unsafe" s then
    some do
      let _ ← anyWord
      g.blockExpression .unchecked
  else if Ahead.word "const" s && Ahead.second (Ahead.group .brace) s then some g.constBlock
  else none

def laterBlock (g : Grammar) : Reader Expr := do
  let _ ← word "async"
  let isMove ← hasWord "move"
  return .block (.later isMove) [] (← g.block)

def atom (g : Grammar) (allowStruct : Bool) : Reader Expr := do
  let s ← get
  if Ahead.literal s && !Ahead.mark "-" s then return .literal (← literalText)
  else if startsAsync s then g.laterBlock
  else if Ahead.word "try" s && Ahead.second (Ahead.group .brace) s then g.keywordBlock .attempt
  else if startsClosure s then g.closure allowStruct
  else if startsBuiltin s then return .verbatim (← builtin)
  else if Ahead.oneOf [plainName, Ahead.mark "::", Ahead.mark "<"] s ||
      (Ahead.word "try" s && Ahead.second (Ahead.oneOf [Ahead.mark "!", Ahead.mark "::"]) s) then
    g.pathExpression allowStruct
  else if Ahead.group .parenthesis s then g.tupleExpression
  else if Ahead.word "break" s then g.leave allowStruct
  else if ← hasWord "continue" then return .skip (← maybe Ahead.lifetime lifetimeText)
  else if Ahead.word "return" s then return .giveBack (← g.keywordValue)
  else if Ahead.word "become" s then
    return .verbatim (← asRead do
      let _ ← anyWord
      g.expression true)
  else if Ahead.group .bracket s then g.arrayExpression
  else if Ahead.word "let" s then g.letExpression allowStruct
  else if Ahead.word "yield" s then return .yield (← g.keywordValue)
  else if Ahead.group .brace s then g.blockExpression .plain
  else if Ahead.mark ".." s then g.rangeFrom allowStruct none
  else if ← hasWord "_" then return .inferred
  else if Ahead.lifetime s then g.labelled
  else
    match g.blockKeyword? s with
    | some r => r
    | none => refuse

/-- An operand with attributes and signs before it. A range takes no attributes. -/
def anyOperand (g : Grammar) (allowStruct : Bool) : Reader Expr := do
  let attributes ← g.outerAttributes
  let s ← get
  if ← hasMark "&" then
    let isRaw ← next fun s =>
      Ahead.word "raw" s && Ahead.second (Ahead.wordOf ["mut", "const"]) s
    if isRaw then
      let _ ← anyWord
      let isMutable ← hasWord "mut"
      let _ ← if isMutable then pure [] else anyWord
      return (Expr.rawReference isMutable (← g.operand allowStruct)).withAttributes attributes
    else
      let isMutable ← hasWord "mut"
      return (Expr.reference isMutable (← g.operand allowStruct)).withAttributes attributes
  else if Ahead.oneOf [Ahead.mark "*", Ahead.mark "!", Ahead.mark "-"] s then
    let sign ← takeIf (fun _ => true) 1
    let operand ← g.operand allowStruct
    return (Expr.unary (Token.spellings sign) operand).withAttributes attributes
  else
    match ← g.trailers (← g.atom allowStruct) with
    | .verbatim tokens => return .verbatim (attributes ++ tokens)
    | e => if e.isRange && !attributes.isEmpty then refuse else return e.withAttributes attributes

/-! ### Expressions at the start of a statement -/

/-- The first operand of a statement, which is a block without what follows it, if it starts with one. -/
def firstOperand (g : Grammar) : Reader Expr := do
  let s ← get
  if startsClosureBinder s then g.operand true
  else
    match g.blockKeyword? s with
    | some r => r
    | none =>
      if Ahead.group .brace s then g.blockExpression .plain
      else if Ahead.lifetime s then g.labelled
      else g.operand true

/-- An expression that starts a statement. Attributes in front of it belong to its first operand. -/
def anyStandalone (g : Grammar) : Reader Expr := do
  let attributes ← g.outerAttributes
  let first ← g.firstOperand
  let s ← get
  if !first.isClosed then g.operations true 0 (first.withAttributes attributes)
  else if (Ahead.mark "." s && !Ahead.mark ".." s) || Ahead.mark "?" s then
    g.operations true 0 ((← g.trailers first).withAttributes attributes)
  else return first.withAttributes attributes

end Grammar

end AttributeSchema.Source
