import AttributeSchema.Source.Grammar.Basic
/-!
# The grammar of paths, bounds and types

Arguments between angle brackets are kept with the lifetimes first. A colon without bounds, an empty list
of generic parameters and the double colon before call arguments mean nothing and are not kept.
-/

namespace AttributeSchema.Source.Grammar

open Reader

/-! ### Constants -/

/-- The attributes and the statements of a block that may have attributes of its own. -/
def ownedBlock (g : Grammar) : Reader (Tokens × List Stmt) :=
  inside .brace do return (← g.innerAttributes, ← g.body)

def blockExpression (g : Grammar) (head : BlockHead) : Reader Expr := do
  let (attributes, body) ← g.ownedBlock
  return .block head attributes body

/-- A constant: a literal, a name, or a block. -/
def constant (g : Grammar) : Reader Expr := do
  if ← next Ahead.literal then return .literal (← literalText)
  else if ← next Ahead.name then return .path false [.plain (← nameText)]
  else g.blockExpression .plain

/-! ### Paths -/

def startsConstant : Test := Ahead.oneOf [Ahead.literal, Ahead.group .brace]

def isLifetime : Argument → Bool
  | .lifetime _ => true
  | _ => false

/-- What follows the name of an argument: the value or the bounds of an associated item. -/
def namedArgument (g : Grammar) (read : Ty) (target : Segment) : Reader Argument := do
  if ← hasMark "=" then
    if ← next startsConstant then return .assocConst target (← g.constant)
    else return .assocType target (← g.type true)
  else if ← hasMark ":" then
    let stops := Ahead.oneOf [Ahead.mark ",", Ahead.mark ">"]
    let (bounds, trailing) := listed (← chain (g.bound false true) stops "+")
    return .constraint target bounds trailing
  else return .type read

def argument (g : Grammar) : Reader Argument := do
  if ← next fun s => Ahead.lifetime s && !Ahead.second (Ahead.mark "+") s then
    return .lifetime (← lifetimeText)
  else if ← next startsConstant then return .const (← g.constant)
  else
    let read ← g.type true
    match read with
    | .path false [.plain n] => g.namedArgument read (.plain n)
    | .path false [.angle n hasColons items trailing] =>
      g.namedArgument read (.angle n hasColons items trailing)
    | _ => return .type read

def angleSegment (g : Grammar) (n : String) : Reader Segment := do
  let hasColons ← hasMark "::"
  let _ ← mark "<"
  let items ← list g.argument (Ahead.mark ">") ","
  let _ ← mark ">"
  let (ordered, trailing) := listed (frontFirst isLifetime items)
  return .angle n hasColons ordered trailing

/-- Whether arguments in angle brackets come next. In expressions, they need a double colon. -/
def startsArguments (inExpression : Bool) : Test := fun s =>
  (!inExpression && Ahead.mark "<" s && !Ahead.mark "<=" s && !Ahead.mark "<<=" s) ||
    (Ahead.mark "::" s && Ahead.mark "<" (s.drop 2))

def segment (g : Grammar) (inExpression : Bool) : Reader Segment := do
  if ← next (Ahead.wordOf ["super", "self", "crate", "try"]) then return .plain (← anyWordText)
  else
    let n ← if ← next (Ahead.word "Self") then anyWordText else nameText
    if ← next (startsArguments inExpression) then g.angleSegment n else return .plain n

/-- At most `fuel` segments behind the first. A double colon before a parenthesis is not read. -/
def segmentsUpTo (g : Grammar) (inExpression : Bool) : Nat → Reader (List Segment)
  | 0 => refuse
  | fuel + 1 => do
    if ← next fun s => Ahead.mark "::" s && !Ahead.group .parenthesis (s.drop 2) then
      let _ ← mark "::"
      let first ← g.segment inExpression
      let rest ← g.segmentsUpTo inExpression fuel
      return first :: rest
    else return []

def path (g : Grammar) (inExpression : Bool) : Reader Path := do
  let isGlobal ← hasMark "::"
  let first ← g.segment inExpression
  let rest ← g.segmentsUpTo inExpression ((← get).length + 1)
  return ⟨isGlobal, first :: rest⟩

def qualified (g : Grammar) (inExpression : Bool) : Reader Ty := do
  let _ ← mark "<"
  let self ← g.type true
  let owner ← if ← hasWord "as" then g.path false else pure ⟨false, []⟩
  let _ ← mark ">"
  let _ ← mark "::"
  let more ← chain (g.segment inExpression) (fun _ => false) "::"
  return .qualified self owner.isGlobal owner.segments.length (owner.segments ++ more.map (·.1))

/-! ### Generic parameters -/

def genericParameterBehind (g : Grammar) (attributes : Tokens) : Reader GenericParameter := do
  if ← next Ahead.name then
    let n ← nameText
    let stops := Ahead.oneOf [Ahead.atEnd, Ahead.mark ",", Ahead.mark ">", Ahead.mark "="]
    let items ← if ← hasMark ":" then chain (g.bound false true) stops "+" else pure []
    let (bounds, trailing) := listed items
    if ← hasMark "=" then return .typeOr attributes n bounds trailing (← g.type true)
    else return .type attributes n bounds trailing
  else if ← next Ahead.lifetime then
    let n ← lifetimeText
    let stops := Ahead.oneOf [Ahead.atEnd, Ahead.mark ",", Ahead.mark ">"]
    let items ← if ← hasMark ":" then chain lifetimeText stops "+" else pure []
    let (bounds, trailing) := listed items
    return .lifetime attributes n bounds trailing
  else
    let _ ← word "const"
    let n ← nameText
    let _ ← mark ":"
    let type ← g.type true
    if ← hasMark "=" then return .constOr attributes n type (← g.constant)
    else return .const attributes n type

def genericParameter (g : Grammar) : Reader GenericParameter := do
  g.genericParameterBehind (← g.outerAttributes)

def binder (g : Grammar) : Reader (Option Binder) := do
  if ← hasWord "for" then
    let _ ← mark "<"
    let (parameters, trailing) := listed (← list g.genericParameter (Ahead.mark ">") ",")
    let _ ← mark ">"
    return some (.mk parameters trailing)
  else return none

/-! ### Bounds -/

def startsBound (allowConst : Bool) : Test := fun s =>
  Ahead.anyWord s || Ahead.mark "::" s || Ahead.mark "?" s || Ahead.lifetime s ||
    Ahead.group .parenthesis s || (allowConst && Ahead.group .bracket s)

def startsCall : Test := fun s =>
  Ahead.group .parenthesis s || (Ahead.mark "::" s && Ahead.group .parenthesis (s.drop 2))

def withCall (segments : List Segment) (inputs : List Ty) (hasTrailingComma : Bool)
    (result : Option Ty) : List Segment :=
  match segments.getLast? with
  | none => segments
  | some last =>
    segments.dropLast ++
      [match result with
        | none => .call last.name inputs hasTrailingComma
        | some type => .callTo last.name inputs hasTrailingComma type]

/-- A path whose last segment may have the arguments of a call, which stand for an empty list of
arguments too. -/
def callPath (g : Grammar) : Reader Path := do
  let path ← g.path false
  if (path.segments.getLast?.any Segment.isBare) && startsCall (← get) then
    let _ ← hasMark "::"
    let (inputs, trailing) :=
      listed (← inside .parenthesis (list (g.type true) Ahead.atEnd ","))
    let result ← if ← hasMark "->" then some <$> g.type false else pure none
    return ⟨path.isGlobal, withCall path.segments inputs trailing result⟩
  else return path

/-- A trait bound, with nothing instead where it is constant. A relaxed bound introduces nothing. -/
def traitBound (g : Grammar) (allowConst isParenthesized : Bool) : Reader (Option Bound) := do
  let before ← g.binder
  let isConst ←
    if ← next (Ahead.group .bracket) then
      let _ ← inside .bracket (word "const")
      pure true
    else hasWord "const"
  let isMaybe ← hasMark "?"
  let binder ← if isMaybe && before.isNone then g.binder else pure before
  let path ← g.callPath
  if (isConst && !allowConst) || (isMaybe && binder.isSome) then refuse
  else if isConst then return none
  else return some (.trait isParenthesized isMaybe binder path.isGlobal path.segments)

def isLifetimeName (name : String) : Bool := name.startsWith "'"

def captures : Reader Bound := do
  let _ ← word "use"
  let _ ← mark "<"
  let parameter : Reader String := do
    if ← next Ahead.lifetime then lifetimeText
    else if ← next (Ahead.word "Self") then anyWordText
    else nameText
  let items ← list parameter (Ahead.mark ">") ","
  let _ ← mark ">"
  let (names, trailing) := listed (frontFirst isLifetimeName items)
  return .captures names trailing

def traitBoundOrTokens (g : Grammar) (allowConst : Bool) : Reader Bound := fun s =>
  let read :=
    if Ahead.group .parenthesis s then inside .parenthesis (g.traitBound allowConst true)
    else g.traitBound allowConst false
  (read s).map fun (found, rest) =>
    (found.getD (.verbatim (s.take (s.length - rest.length))), rest)

def anyBound (g : Grammar) (allowCaptures allowConst : Bool) : Reader Bound := do
  if ← next Ahead.lifetime then return .lifetime (← lifetimeText)
  else if ← next (Ahead.word "use") then if allowCaptures then captures else refuse
  else g.traitBoundOrTokens allowConst

/-- At most `fuel` bounds with plus signs between them; a plus sign may end them. -/
def boundsUpTo (g : Grammar) (allowPlus allowCaptures allowConst : Bool) :
    Nat → Reader (List Bound × Bool)
  | 0 => refuse
  | fuel + 1 => do
    let first ← g.bound allowCaptures allowConst
    if allowPlus && Ahead.mark "+" (← get) then
      let _ ← mark "+"
      if startsBound allowConst (← get) then
        let (more, trailing) ← g.boundsUpTo allowPlus allowCaptures allowConst fuel
        return (first :: more, trailing)
      else return ([first], true)
    else return ([first], false)

/-- Whether at least one bound is no lifetime and no list of captured parameters. -/
def hasTrait (bounds : List Bound) : Bool :=
  bounds.any fun
    | .trait .. => true
    | .verbatim _ => true
    | _ => false

def bounds (g : Grammar) (allowPlus allowCaptures allowConst : Bool) :
    Reader (List Bound × Bool) := do
  let (bounds, trailing) ←
    g.boundsUpTo allowPlus allowCaptures allowConst ((← get).length + 1)
  if hasTrait bounds then return (bounds, trailing) else refuse

/-! ### Types -/

def bareBounds (g : Grammar) : Reader Ty := do
  let (bounds, trailing) ← g.bounds true false false
  return .bounded .absent bounds trailing

def inParentheses : Bound → Bound
  | .trait _ isMaybe binder isGlobal segments => .trait true isMaybe binder isGlobal segments
  | other => other

def onlyBound? : Ty → Option Bound
  | .path isGlobal segments => some (.trait false false none isGlobal segments)
  | .bounded .absent [bound] false => some bound
  | _ => none

def moreBoundsUpTo (g : Grammar) : Nat → Reader (List Bound)
  | 0 => refuse
  | fuel + 1 => do
    if ← hasMark "+" then
      let first ← g.bound false false
      let rest ← g.moreBoundsUpTo fuel
      return first :: rest
    else return []

def parenthesizedBounds (g : Grammar) (first : Bound) : Reader Ty := do
  return .bounded .absent (inParentheses first :: (← g.moreBoundsUpTo ((← get).length + 1))) false

inductive Enclosed
  | type (t : Ty)
  /-- A type that the parentheses only group. -/
  | grouped (t : Ty)
  /-- A bound that further bounds may follow. -/
  | bound (b : Bound)

def enclosedType (g : Grammar) : Reader Enclosed := do
  if ← next Ahead.atEnd then return .type (.tuple [] false)
  else if ← next Ahead.lifetime then return .type (.parenthesized (← g.bareBounds))
  else if ← next (Ahead.mark "?") then
    match ← g.traitBound false true with
    | some first => return .bound first
    | none => refuse
  else
    let first ← g.type true
    if ← hasMark "," then
      let items ← list (g.type true) Ahead.atEnd ","
      let (more, trailing) := listed items
      return .type (.tuple (first :: more) (items.isEmpty || trailing))
    else return .grouped first

def parenthesizedType (g : Grammar) (allowPlus : Bool) : Reader Ty := do
  match ← inside .parenthesis g.enclosedType with
  | .type t => return t
  | .bound first => g.parenthesizedBounds first
  | .grouped t =>
    match if allowPlus && Ahead.mark "+" (← get) then onlyBound? t else none with
    | some first => g.parenthesizedBounds first
    | none => return .parenthesized t

def startsVariadic : Test := fun s =>
  Ahead.mark "..." s ||
    ((Ahead.name s || Ahead.word "_" s) && Ahead.second (Ahead.mark ":") s &&
      Ahead.third (Ahead.mark "...") s)

/-- The receiver that only the first parameter may be: `mut self`, with or without a name or a type. -/
def startsMutableSelf : Test := fun s => Ahead.word "mut" s && Ahead.second (Ahead.word "self") s

def parameterBehind (g : Grammar) (isFirst : Bool) (attributes : Tokens) : Reader Parameter := do
  let s ← get
  let isMutable := isFirst && startsMutableSelf s
  let s' := if isMutable then s.drop 1 else s
  let isSelf := isFirst && Ahead.word "self" s'
  let isNamed := (Ahead.name s' || Ahead.word "_" s' || isSelf) &&
    Ahead.second (Ahead.mark ":") s' && !Ahead.second (Ahead.mark "::") s'
  if isMutable then
    let _ ← word "mut"
    let tokens ← asRead (if isNamed then seq [anyWord, mark ":", g.typeTokens] else word "self")
    return .mk attributes none (.verbatim (.word "mut" :: tokens))
  else
    let label ← if isNamed then some <$> anyWordText else pure none
    let _ ← if isNamed then mark ":" else pure []
    if isFirst && !(isNamed && isSelf) && startsMutableSelf (← get) then
      let tokens ← seq [word "mut", word "self"]
      let before := (label.map fun n => .word n :: marks ":").getD []
      return .mk attributes none (.verbatim (before ++ tokens))
    else return .mk attributes label (← g.type true)

/-- At most `fuel` parameters of a function type; the flag tells of a comma after the last one. -/
def parametersUpTo (g : Grammar) (isFirst : Bool) : Nat → Reader (List Parameter × Bool)
  | 0 => refuse
  | fuel + 1 => do
    if ← next Ahead.atEnd then return ([], false)
    let attributes ← g.outerAttributes
    if ← next startsVariadic then
      let label ← if ← next (Ahead.mark "...") then pure none else some <$> anyWordText
      let _ ← if label.isSome then mark ":" else pure []
      let _ ← mark "..."
      return ([.variadic attributes label], ← hasMark ",")
    else
      let first ← g.parameterBehind isFirst attributes
      if ← next Ahead.atEnd then return ([first], false)
      let _ ← mark ","
      let (more, trailing) ← g.parametersUpTo false fuel
      return (first :: more, more.isEmpty || trailing)

def functionType (g : Grammar) (binder : Option Binder) : Reader Ty := do
  let isUnsafe ← hasWord "unsafe"
  let isForeign ← hasWord "extern"
  let convention ←
    if isForeign && Ahead.text (← get) then some <$> literalText else pure none
  let _ ← word "fn"
  let (parameters, trailing) ←
    inside .parenthesis do g.parametersUpTo true ((← get).length + 1)
  let head : FunctionHead := ⟨isUnsafe, if isForeign then some convention else none⟩
  if ← hasMark "->" then
    return .functionTo binder head parameters trailing (← g.type false)
  else return .function binder head parameters trailing

def pathType (g : Grammar) (allowPlus : Bool) (binder : Option Binder) : Reader Ty := do
  if ← next (Ahead.mark "<") then g.qualified false
  else
    let path ← g.path false
    let s ← get
    if Ahead.mark "!" s && !Ahead.mark "!=" s && path.segments.all Segment.isPlain then
      let _ ← mark "!"
      match ← anyGroup with
      | [.group delimiter body] =>
        return .invocation path.isGlobal path.segments delimiter body
      | _ => refuse
    else if binder.isSome || (allowPlus && Ahead.mark "+" s) then
      let first := Bound.trait false false binder path.isGlobal path.segments
      if allowPlus && Ahead.mark "+" s then
        let _ ← mark "+"
        if startsBound false (← get) then
          let (more, trailing) ← g.boundsUpTo true false false ((← get).length + 1)
          return .bounded .absent (first :: more) trailing
        else return .bounded .absent [first] true
      else return .bounded .absent [first] false
    else return .path path.isGlobal path.segments

def startsBuiltin : Test := fun s => Ahead.word "builtin" s && Ahead.second (Ahead.mark "#") s

def builtin : Reader Tokens := seq [word "builtin", mark "#", name, groupOf .parenthesis]

def mayFollowBinder : Test :=
  Ahead.oneOf [plainName, Ahead.wordOf ["fn", "unsafe", "extern"]]

def bracketedType (g : Grammar) : Reader Ty :=
  inside .bracket do
    let element ← g.type true
    if ← hasMark ";" then return .array element (← g.expression true)
    else return .slice element

def referenceType (g : Grammar) : Reader Ty := do
  let _ ← mark "&"
  let lifetime ← if ← next Ahead.lifetime then some <$> lifetimeText else pure none
  let isMutable ← hasWord "mut"
  return .reference lifetime isMutable (← g.type false)

def pointerType (g : Grammar) : Reader Ty := do
  let _ ← mark "*"
  let isMutable ← hasWord "mut"
  let _ ← if isMutable then pure [] else word "const"
  return .pointer isMutable (← g.type false)

/-- A trait object with its keyword. Of one with a star only the tokens are kept. -/
def objectType (g : Grammar) (allowPlus : Bool) : Reader Ty := do
  if ← next (Ahead.second (Ahead.mark "*")) then
    return .verbatim (← asRead do
      let _ ← word "dyn"
      let _ ← mark "*"
      g.bounds allowPlus false false)
  else
    let _ ← word "dyn"
    let (bounds, trailing) ← g.bounds allowPlus false false
    return .bounded .dynamic bounds trailing

def abstractType (g : Grammar) (allowPlus : Bool) : Reader Ty := do
  let _ ← word "impl"
  let (bounds, trailing) ← g.bounds allowPlus true true
  return .bounded .abstract bounds trailing

def anyType (g : Grammar) (allowPlus : Bool) : Reader Ty := do
  let binder ← g.binder
  let s ← get
  if binder.isSome && !mayFollowBinder s then refuse
  else if Ahead.group .parenthesis s then g.parenthesizedType allowPlus
  else if Ahead.wordOf ["fn", "unsafe", "extern"] s then g.functionType binder
  else if startsBuiltin s then return .verbatim (binderTokens binder ++ (← builtin))
  else if Ahead.oneOf [plainName, Ahead.mark "::", Ahead.mark "<"] s then
    g.pathType allowPlus binder
  else if Ahead.word "dyn" s then g.objectType allowPlus
  else if Ahead.group .bracket s then g.bracketedType
  else if Ahead.mark "*" s then g.pointerType
  else if Ahead.mark "&" s then g.referenceType
  else if Ahead.mark "!" s then do let _ ← mark "!"; return .never
  else if Ahead.word "impl" s then g.abstractType allowPlus
  else if Ahead.word "_" s then do let _ ← anyWord; return .inferred
  else if Ahead.lifetime s then g.bareBounds
  else refuse

end AttributeSchema.Source.Grammar
