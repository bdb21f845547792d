import AttributeSchema.Source.Grammar.Types
import AttributeSchema.Source.Number
/-!
# The grammar of patterns

A pattern is a name, a constant, a range, or several patterns in some order. The obsolete mark `...` of a
range means the same as `..=`.
-/

namespace AttributeSchema.Source

def Expr.isPlainPath : Expr → Bool
  | .path _ segments => segments.all Segment.isPlain
  | _ => false

def Pat.isOpenRange : Pat → Bool
  | .value (.range none _ _) => true
  | .value (.range _ _ none) => true
  | _ => false

/-- A pattern with attributes in front. One without a tree loses them. -/
def Pat.withAttributes (attributes : Tokens) : Pat → Pat
  | .verbatim tokens => .verbatim tokens
  | p => if attributes.isEmpty then p else .attributed attributes p

end AttributeSchema.Source

namespace AttributeSchema.Source.Grammar

open Reader

/-- A member of a struct or a tuple: a name, or a number. -/
def member : Reader String := fun
  | .word w :: rest => if Ahead.isName w then some (w, rest) else none
  | .literal text :: rest => (memberNumber? text).map (·, rest)
  | _ => none

/-! ### Ranges -/

/-- The mark of a range, and whether the range includes its end: `..`, or `..=`, for which `...` may
stand where that is allowed. -/
def rangeMark (allowObsolete : Bool) : Reader Bool := do
  if ← hasMark "..=" then return true
  else if ← hasMark "..." then if allowObsolete then return true else refuse
  else
    let _ ← mark ".."
    return false

def valuePath (g : Grammar) : Reader Expr := do
  if ← next (Ahead.mark "<") then
    match ← g.qualified true with
    | .qualified self isGlobal traitLength segments =>
      return .qualified self isGlobal traitLength segments
    | _ => refuse
  else
    let path ← g.path true
    return .path path.isGlobal path.segments

def invocationOf (path : Expr) : Reader Expr := do
  let _ ← mark "!"
  match path, ← anyGroup with
  | .path isGlobal segments, [.group delimiter body] =>
    return .invocation isGlobal segments delimiter body
  | _, _ => refuse

def constBlock (g : Grammar) : Reader Expr := do
  let _ ← word "const"
  g.blockExpression .constant

def lacksBound : Test := fun s =>
  Ahead.atEnd s || Ahead.mark "|" s || Ahead.mark "=" s ||
    (Ahead.mark ":" s && !Ahead.mark "::" s) || Ahead.mark "," s || Ahead.mark ";" s ||
    Ahead.word "if" s

/-- The bound of a range: a literal, a path, a constant block, or nothing. -/
def rangeBound (g : Grammar) : Reader (Option Expr) := do
  if ← next lacksBound then return none
  else if ← next Ahead.literal then return some (.literal (← literalText))
  else if ← next (Ahead.oneOf [plainName, Ahead.mark "::", Ahead.mark "<"]) then
    return some (← g.valuePath)
  else return some (← g.constBlock)

def rangeBehind (g : Grammar) (first : Expr) : Reader Pat := do
  let isClosed ← rangeMark true
  let last ← g.rangeBound
  if isClosed && last.isNone then refuse else return .value (.range (some first) isClosed last)

/-- A range without a start, or the mark for any number of parts. -/
def rangeTo (g : Grammar) : Reader Pat := do
  let isClosed ← rangeMark false
  match ← g.rangeBound with
  | none => if isClosed then refuse else return .rest
  | some last => return .value (.range none isClosed (some last))

/-! ### Choices and parts -/

def startsChoice : Test := fun s =>
  Ahead.mark "|" s && !Ahead.mark "||" s && !Ahead.mark "|=" s

/-- A pattern or a choice of patterns, which may have a bar in front. -/
def choice (g : Grammar) : Reader Pat := do
  let hasBar ← hasMark "|"
  let first ← g.pattern
  let more ← collectWhile startsChoice do
    let _ ← mark "|"
    g.pattern
  if hasBar || !more.isEmpty then return .choice hasBar (first :: more) else return first

def patternList (item : Reader Pat) : Reader (List Pat × Bool) := do
  return listed (← list item Ahead.atEnd ",")

/-- The part of a struct pattern behind its attributes: a member with a pattern, or a name for the
member. -/
def fieldPattern (g : Grammar) (attributes : Tokens) : Reader FieldPat := do
  let isBoxed ← hasWord "box"
  let isReference ← hasWord "ref"
  let isMutable ← hasWord "mut"
  let isBare := !isBoxed && !isReference && !isMutable
  if isBare && !Ahead.name (← get) then
    let n ← member
    let _ ← mark ":"
    return .member attributes n (← g.choice)
  else
    let n ← nameText
    if isBare && Ahead.mark ":" (← get) then
      let _ ← mark ":"
      return .member attributes n (← g.choice)
    else
      let short : Pat := .name isReference isMutable n none
      return .short attributes (if isBoxed then .verbatim (.word "box" :: short.tokens) else short)

/-- At most `fuel` parts of a struct pattern; the mark for the others may only be the last. -/
def fieldPatternsUpTo (g : Grammar) : Nat → Reader (List FieldPat × Bool)
  | 0 => refuse
  | fuel + 1 => do
    if ← next Ahead.atEnd then return ([], false)
    let attributes ← g.outerAttributes
    if ← hasMark ".." then return ([.others attributes], false)
    else
      let first ← g.fieldPattern attributes
      if ← next Ahead.atEnd then return ([first], false)
      let _ ← mark ","
      let (more, trailing) ← g.fieldPatternsUpTo fuel
      return (first :: more, more.isEmpty || trailing)

def pathPattern (g : Grammar) : Reader Pat := do
  let path ← g.valuePath
  let s ← get
  if path.isPlainPath && Ahead.mark "!" s && !Ahead.mark "!=" s then
    return .value (← invocationOf path)
  else if Ahead.group .brace s then
    let (fields, trailing) ← inside .brace do g.fieldPatternsUpTo ((← get).length + 1)
    return .struct path fields trailing
  else if Ahead.group .parenthesis s then
    let (parts, trailing) ← inside .parenthesis (patternList g.choice)
    return .constructor path parts trailing
  else if Ahead.mark ".." s then g.rangeBehind path
  else return .value path

def literalPattern (g : Grammar) : Reader Pat := do
  match ← g.rangeBound with
  | none => refuse
  | some first =>
    if ← next (Ahead.mark "..") then g.rangeBehind first else return .value first

/-- A part of a slice pattern, which is no open range. -/
def slicePart (g : Grammar) : Reader Pat := do
  let part ← g.choice
  if part.isOpenRange then refuse else return part

def tuplePattern (g : Grammar) : Reader Pat := do
  match ← inside .parenthesis (patternList g.choice) with
  | ([.rest], false) => return .tuple [.rest] false
  | ([single], false) => return .parenthesized single
  | (parts, trailing) => return .tuple parts trailing

def startsPathPattern : Test := fun s =>
  (Ahead.name s &&
      Ahead.second (Ahead.oneOf [Ahead.mark "::", Ahead.mark "!", Ahead.group .brace,
        Ahead.group .parenthesis, Ahead.mark ".."]) s) ||
    (Ahead.word "self" s && Ahead.second (Ahead.mark "::") s) || Ahead.mark "::" s ||
    Ahead.mark "<" s || Ahead.wordOf ["Self", "super", "crate"] s

def namePattern (g : Grammar) : Reader Pat := do
  let isReference ← hasWord "ref"
  let isMutable ← hasWord "mut"
  let n ← if ← next (Ahead.word "self") then anyWordText else nameText
  let inner ← maybe (Ahead.mark "@") do
    let _ ← mark "@"
    g.pattern
  return .name isReference isMutable n inner

def anyPattern (g : Grammar) : Reader Pat := do
  let s ← get
  if startsPathPattern s then g.pathPattern
  else if ← hasWord "_" then return .wildcard
  else if Ahead.word "box" s then
    return .verbatim (← asRead do
      let _ ← anyWord
      g.pattern)
  else if Ahead.mark "-" s || Ahead.literal s || Ahead.word "const" s then g.literalPattern
  else if Ahead.wordOf ["ref", "mut", "self"] s || Ahead.name s then g.namePattern
  else if ← hasMark "&" then
    let isMutable ← hasWord "mut"
    return .reference isMutable (← g.pattern)
  else if Ahead.group .parenthesis s then g.tuplePattern
  else if Ahead.group .bracket s then
    let (parts, trailing) ← inside .bracket (patternList g.slicePart)
    return .slice parts trailing
  else if Ahead.mark ".." s && !Ahead.mark "..." s then g.rangeTo
  else refuse

end AttributeSchema.Source.Grammar
