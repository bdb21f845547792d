import AttributeSchema.Source.Grammar.Statements
/-!
# The grammar of items

Functions, types, traits, implementations, modules and imports. Items are kept as tokens, with generic
parameters in order and without what means nothing: a clause without predicates, a colon without bounds,
and the visibility of a variant. An item that is well formed but has no meaning, such as a function without
a body, is kept just as it is read: readers of such items also tell whether they met one.
-/

namespace AttributeSchema.Source.Grammar

open Reader

/-! ### Parts of items -/

def withCommas (items : List (Tokens × Bool)) : Tokens :=
  items.flatMap fun (tokens, hasComma) => tokens ++ tokensIf hasComma (marks ",")

def commaList (item : Reader Tokens) : Reader Tokens := do
  return withCommas (← list item Ahead.atEnd ",")

def functionBody (g : Grammar) : Reader Tokens := do
  let (attributes, body) ← g.ownedBlock
  return [.group .brace (attributes ++ Stmt.allTokens body)]

/-- The visibility of an item. Parentheses behind the keyword may also start a type. -/
def visibility : Reader Tokens := do
  let restricted : Test
    | .word "pub" :: .group .parenthesis content :: _ =>
      match content with
      | [.word w] => ["crate", "self", "super"].contains w
      | .word "in" :: rest => (plainPath rest).any (·.2.isEmpty)
      | _ => false
    | _ => false
  if ← next restricted then takeIf (fun _ => true) 2 else maybeWord "pub"

def isLifetimeParameter : GenericParameter → Bool
  | .lifetime .. => true
  | _ => false

/-- The generic parameters of an item, lifetimes first, without the brackets if there are none. -/
def generics (g : Grammar) : Reader Tokens := do
  if ← next (Ahead.mark "<") then
    let _ ← mark "<"
    let parameter : Reader GenericParameter := do
      let attributes ← g.outerAttributes
      if ← next (Ahead.word "_") then return .type attributes (← anyWordText) [] false
      else g.genericParameterBehind attributes
    let items ← list parameter (Ahead.mark ">") ","
    let _ ← mark ">"
    if items.isEmpty then return []
    else
      let (parameters, trailing) := listed (frontFirst isLifetimeParameter items)
      return marks "<" ++
        separatedTokens "," (GenericParameter.tokensList parameters) trailing ++ marks ">"
  else return []

def colonBounds (g : Grammar) (stops : Test) : Reader Tokens := do
  if ← hasMark ":" then
    let (bounds, trailing) := listed (← list (g.bound false true) stops "+")
    return tokensIf (!bounds.isEmpty)
      (marks ":" ++ separatedTokens "+" (Bound.tokensList bounds) trailing)
  else return []

def endsPredicate : Test := fun s =>
  Ahead.atEnd s || Ahead.group .brace s || Ahead.mark "," s || Ahead.mark ";" s ||
    (Ahead.mark ":" s && !Ahead.mark "::" s) || Ahead.mark "=" s

def predicate (g : Grammar) : Reader Tokens := do
  if ← next fun s => Ahead.lifetime s && Ahead.second (Ahead.mark ":") s then
    let head ← seq [lifetime, mark ":"]
    let (bounds, trailing) := listed (← chain lifetimeText endsPredicate "+")
    return head ++ separatedTokens "+" (bounds.map nameTokens) trailing
  else
    let introduced ← g.binder
    let head ← seq [g.typeTokens, mark ":"]
    let (bounds, trailing) := listed (← chain (g.bound false true) endsPredicate "+")
    return binderTokens introduced ++ head ++
      separatedTokens "+" (Bound.tokensList bounds) trailing

def whereClause (g : Grammar) : Reader Tokens := do
  if ← hasWord "where" then
    let items ← chain g.predicate endsPredicate ","
    return tokensIf (!items.isEmpty) (.word "where" :: withCommas items)
  else return []

def result (g : Grammar) : Reader Tokens :=
  optional (Ahead.mark "->") (seq [mark "->", g.typeTokens])

def definition (g : Grammar) : Reader Tokens :=
  optional (Ahead.mark "=") (seq [mark "=", g.expressionTokens])

def nameOrGap : Reader Tokens := takeIf (Ahead.oneOf [Ahead.name, Ahead.word "_"]) 1

def itemsOf (g : Grammar) (item : Reader Tokens) : Reader Tokens :=
  group .brace (seq [g.innerAttributes, untilEnd item])

/-! ### Functions -/

def functionWords (allowSafe : Bool) : Reader Tokens :=
  seq
    [maybeWord "const", maybeWord "async",
      do
        if allowSafe && Ahead.word "safe" (← get) then anyWord else maybeWord "unsafe",
      optional (Ahead.word "extern") (seq [anyWord, optional Ahead.text text])]

def startsFunction (allowSafe : Bool) : Test := fun s =>
  match functionWords allowSafe s with
  | some (_, rest) => Ahead.word "fn" rest
  | none => false

/-- A parameter for the value of a method, and its type where it has one. -/
def receiver (g : Grammar) : Reader Tokens := do
  let reference ← optional (Ahead.mark "&") (seq [mark "&", optional Ahead.lifetime lifetime])
  let self ← seq [maybeWord "mut", word "self"]
  let type ←
    if reference.isEmpty then optional (Ahead.mark ":") (seq [mark ":", g.typeTokens]) else pure []
  return reference ++ self ++ type

/-- At most `fuel` parameters of a function; only the first one may be a receiver. One that starts with
a name and an angle bracket is a type alone. -/
def functionParametersUpTo (g : Grammar) (isFirst : Bool) : Nat → Reader Tokens
  | 0 => refuse
  | fuel + 1 => do
    if ← next Ahead.atEnd then return []
    let attributes ← g.outerAttributes
    let last : Reader Tokens := seq [mark "...", optional (Ahead.none Ahead.atEnd) (mark ",")]
    let more : Reader Tokens :=
      optional (Ahead.none Ahead.atEnd) (seq [mark ",", g.functionParametersUpTo false fuel])
    if ← next (Ahead.mark "...") then return attributes ++ (← last)
    else
      match ← orNothing g.receiver with
      | some tokens => if isFirst then return attributes ++ tokens ++ (← more) else refuse
      | none =>
        if ← next fun s => Ahead.name s && Ahead.second (Ahead.mark "<") s then
          let type ← g.typeTokens
          return attributes ++ .word "_" :: marks ":" ++ type ++ (← more)
        else
          let pattern := (← g.pattern).tokens
          let colon ← mark ":"
          if ← next (Ahead.mark "...") then return attributes ++ pattern ++ colon ++ (← last)
          else return attributes ++ pattern ++ colon ++ (← g.typeTokens) ++ (← more)

def signature (g : Grammar) (allowSafe : Bool) : Reader Tokens :=
  seq
    [functionWords allowSafe, word "fn", name, g.generics,
      group .parenthesis do g.functionParametersUpTo true ((← get).length + 1),
      g.result, g.whereClause]

/-! ### Types and constants -/

inductive ClausePlace
  | beforeDefinition
  | behindDefinition
  /-- On either side, but once only. -/
  | anywhere
  deriving DecidableEq

def typeDefinition (g : Grammar) (place : ClausePlace) : Reader (Tokens × Bool × Bool) := do
  let stops := Ahead.oneOf [Ahead.word "where", Ahead.mark "=", Ahead.mark ";"]
  let head ← seq [word "type", name, g.generics]
  let hasColon ← next (Ahead.mark ":")
  let bounds ← g.colonBounds stops
  let hasClause ← next fun s => place != .behindDefinition && Ahead.word "where" s
  let clause ← if hasClause then g.whereClause else pure []
  let isDefined ← next (Ahead.mark "=")
  let definition ← optional (Ahead.mark "=") (seq [mark "=", g.typeTokens])
  let mayFollow := place == .behindDefinition || (place == .anywhere && !hasClause)
  let last ← if mayFollow then g.whereClause else pure []
  let close ← mark ";"
  return (head ++ bounds ++ clause ++ definition ++ last ++ close, hasColon, isDefined)

def constantItem (g : Grammar) : Reader (Tokens × Bool × Bool) := do
  let head ← seq [word "const", nameOrGap]
  let isGeneric ← next (Ahead.mark "<")
  let middle ← seq [g.generics, mark ":", g.typeTokens]
  let hasValue ← next (Ahead.mark "=")
  let value ← g.definition
  let hasClause ← next (Ahead.word "where")
  let last ← seq [g.whereClause, mark ";"]
  return (head ++ middle ++ value ++ last, isGeneric || hasClause, hasValue)

def startsNamelessFields : Test := fun s =>
  Ahead.word "struct" s || (Ahead.word "union" s && Ahead.second (Ahead.group .brace) s)

/-- A named field of a struct: one level of nameless ones, for each level of the fuel. -/
def namedFieldUpTo (g : Grammar) : Nat → Reader Tokens
  | 0 => refuse
  | fuel + 1 => do
    let head ← seq [g.outerAttributes, visibility]
    let isNameless ← next (Ahead.word "_")
    let label ← seq [nameOrGap, mark ":"]
    let fields : Reader Tokens := asRead do
      let _ ← anyWord
      group .brace (commaList (g.namedFieldUpTo fuel))
    return head ++ label ++
      (← if isNameless && startsNamelessFields (← get) then fields else g.typeTokens)

/-- A named field of a struct. Instead of a type, one without a name may have fields of its own. -/
def namedField (g : Grammar) : Reader Tokens := do g.namedFieldUpTo (Token.sizes (← get) + 1)

def namedFields (g : Grammar) : Reader Tokens := group .brace (commaList g.namedField)

def unnamedFields (g : Grammar) : Reader Tokens :=
  group .parenthesis (commaList (seq [g.outerAttributes, visibility, g.typeTokens]))

def structRest (g : Grammar) : Reader Tokens := do
  if ← next (Ahead.group .parenthesis) then seq [g.unnamedFields, g.whereClause, mark ";"]
  else
    let clause ← g.whereClause
    if ← next (Ahead.group .brace) then return clause ++ (← g.namedFields)
    else return clause ++ (← mark ";")

/-- A variant of an enumeration. Its visibility means nothing. -/
def variant (g : Grammar) : Reader Tokens := do
  let attributes ← g.outerAttributes
  let _ ← visibility
  let head ← name
  let fields ←
    if ← next (Ahead.group .brace) then g.namedFields
    else optional (Ahead.group .parenthesis) g.unnamedFields
  return attributes ++ head ++ fields ++ (← g.definition)

/-! ### Imports -/

/-- At most `fuel` trees of a group of imports. -/
def useTreesUpTo (g : Grammar) (allowGlobal : Bool) : Nat → Reader Tokens
  | 0 => refuse
  | fuel + 1 => do
    if ← next Ahead.atEnd then return []
    let colons ← if allowGlobal then maybeMark "::" else pure []
    let tree ← g.useTree (allowGlobal && colons.isEmpty)
    let rest ←
      optional (Ahead.none Ahead.atEnd) (seq [mark ",", g.useTreesUpTo allowGlobal fuel])
    return colons ++ tree ++ rest

def anyUseTree (g : Grammar) (allowGlobal : Bool) : Reader Tokens := do
  let s ← get
  if Ahead.name s || Ahead.wordOf ["self", "super", "crate", "try"] s then
    let head ← anyWord
    if ← next (Ahead.mark "::") then return head ++ (← seq [mark "::", g.useTree false])
    else
      return head ++ (← optional (Ahead.word "as") (seq [anyWord, nameOrGap]))
  else if Ahead.mark "*" s then mark "*"
  else group .brace do g.useTreesUpTo allowGlobal ((← get).length + 1)

def useItem (g : Grammar) : Reader Tokens := do
  let head ← seq [word "use", maybeMark "::"]
  return head ++ (← seq [g.useTree (head.length == 1), mark ";"])

/-! ### Traits and implementations -/

def traitRest (g : Grammar) : Reader Tokens :=
  seq
    [g.colonBounds (Ahead.oneOf [Ahead.word "where", Ahead.group .brace]), g.whereClause,
      g.itemsOf g.traitItem]

/-- A trait behind its visibility. One without modifiers may be the name of some bounds. -/
def traitItemRest (g : Grammar) : Reader Tokens := do
  let words ← seq [maybeWord "unsafe", maybeWord "auto"]
  let head ← seq [word "trait", name, g.generics]
  if words.isEmpty && Ahead.mark "=" (← get) then
    let _ ← mark "="
    let stops := Ahead.oneOf [Ahead.word "where", Ahead.mark ";"]
    let (bounds, trailing) := listed (← list (g.bound false true) stops "+")
    return head ++ marks "=" ++ separatedTokens "+" (Bound.tokensList bounds) trailing ++
      (← seq [g.whereClause, mark ";"])
  else return words ++ head ++ (← g.traitRest)

/-- Whether generic parameters come behind the keyword of an implementation, not a path below a
type. -/
def startsGenerics : Test := fun s =>
  Ahead.mark "<" s &&
    (Ahead.second (Ahead.oneOf [Ahead.mark ">", Ahead.mark "#", Ahead.word "const"]) s ||
      (Ahead.second (Ahead.oneOf [Ahead.lifetime, Ahead.name]) s &&
        (Ahead.third (Ahead.oneOf [Ahead.mark ">", Ahead.mark ",", Ahead.mark "="]) s ||
          (Ahead.third (Ahead.mark ":") s && !Ahead.third (Ahead.mark "::") s))))

def isTraitName : Ty → Bool
  | .path .. => true
  | _ => false

/-- An implementation with its visibility. Only one of a trait may be negative. One that has a visibility,
is constant, or is of something else than a trait is kept as it is read. -/
def implementation (g : Grammar) : Reader (Tokens × Bool) := do
  let seen ← visibility
  let head ← seq
    [maybeWord "default", maybeWord "unsafe", word "impl", optional startsGenerics g.generics]
  let modifier ←
    optional
      (Ahead.oneOf
        [Ahead.word "const", fun s => Ahead.mark "?" s && Ahead.second (Ahead.word "const") s])
      (seq [maybeMark "?", word "const"])
  let sign ←
    optional (fun s => Ahead.mark "!" s && !Ahead.second (Ahead.group .brace) s) (mark "!")
  let subject ← g.type true
  let isOfTrait ← next (Ahead.word "for")
  if !isOfTrait && !sign.isEmpty then refuse
  let target ← optional (Ahead.word "for") (seq [anyWord, g.typeTokens])
  let rest ← seq [g.whereClause, g.itemsOf g.implItem]
  return (seen ++ head ++ modifier ++ sign ++ subject.tokens ++ target ++ rest,
    !seen.isEmpty || !modifier.isEmpty || (isOfTrait && !isTraitName subject))

def startsInvocation : Test :=
  Ahead.oneOf [Ahead.name, Ahead.wordOf ["self", "super", "crate"], Ahead.mark "::"]

/-- An invocation as an item: only one with braces needs no semicolon. -/
def invocationItem : Reader Tokens := do
  let tokens ← invocation
  if endInBlock tokens then return tokens else return tokens ++ (← mark ";")

/-- A function with its body or a semicolon instead, and whether it has a body. -/
def functionItem (g : Grammar) (allowSafe : Bool) : Reader (Tokens × Bool) := do
  let head ← g.signature allowSafe
  let hasBody ← next (Ahead.group .brace)
  return (head ++ (← if hasBody then g.functionBody else mark ";"), hasBody)

def anyTraitItem (g : Grammar) : Reader Tokens := asReadIf do
  let attributes ← g.outerAttributes
  let words ← seq [visibility, maybeWord "default"]
  let head := attributes ++ words
  let isMarked := !words.isEmpty
  let s ← get
  let isConstant := Ahead.word "const" s && Ahead.second (Ahead.oneOf [Ahead.name, Ahead.word "_"]) s
  if startsFunction false s then
    let (tokens, _) ← g.functionItem false
    return (head ++ tokens, isMarked)
  else if isConstant then
    let (tokens, isGeneric, _) ← g.constantItem
    return (head ++ tokens, isMarked || isGeneric)
  else if Ahead.word "type" s then
    let (tokens, _) ← g.typeDefinition .behindDefinition
    return (head ++ tokens, isMarked)
  else if startsInvocation s && !isMarked then return (head ++ (← invocationItem), false)
  else refuse

def anyImplItem (g : Grammar) : Reader Tokens := asReadIf do
  let attributes ← g.outerAttributes
  let seen ← visibility
  let isDefault ← next fun s => Ahead.word "default" s && !Ahead.second (Ahead.mark "!") s
  let head := attributes ++ seen ++ (← if isDefault then anyWord else pure [])
  let s ← get
  if startsFunction false s then
    let (tokens, hasBody) ← g.functionItem false
    return (head ++ tokens, !hasBody)
  else if Ahead.word "const" s then
    let (tokens, isGeneric, hasValue) ← g.constantItem
    return (head ++ tokens, isGeneric || !hasValue)
  else if Ahead.word "type" s then
    let (tokens, hasColon, isDefined) ← g.typeDefinition .behindDefinition
    return (head ++ tokens, hasColon || !isDefined)
  else if startsInvocation s && seen.isEmpty && !isDefault then
    return (head ++ (← invocationItem), false)
  else refuse

/-- A static value of a foreign module from its modifier on, and whether it has a modifier or a value. -/
def foreignStatic (g : Grammar) : Reader (Tokens × Bool) := do
  let modifier ← optional (Ahead.wordOf ["unsafe", "safe"]) anyWord
  let head ← seq [word "static", maybeWord "mut", name, mark ":", g.typeTokens]
  let value ← g.definition
  let close ← mark ";"
  return (modifier ++ head ++ value ++ close, !modifier.isEmpty || !value.isEmpty)

def anyForeignItem (g : Grammar) : Reader Tokens := asReadIf do
  let attributes ← g.outerAttributes
  let seen ← visibility
  let head := attributes ++ seen
  let s ← get
  if startsFunction true s then
    let isSafe := !startsFunction false s
    let (tokens, hasBody) ← g.functionItem true
    return (head ++ tokens, isSafe || hasBody)
  else if Ahead.word "static" s ||
      (Ahead.wordOf ["unsafe", "safe"] s && Ahead.second (Ahead.word "static") s) then
    let (tokens, isMarked) ← g.foreignStatic
    return (head ++ tokens, isMarked)
  else if Ahead.word "type" s then
    let (tokens, hasColon, isDefined) ← g.typeDefinition .anywhere
    return (head ++ tokens, hasColon || isDefined)
  else if startsInvocation s && seen.isEmpty then return (head ++ (← invocationItem), false)
  else refuse

/-! ### Items of modules -/

def foreignModule (g : Grammar) : Reader Tokens :=
  seq
    [maybeWord "unsafe", word "extern", optional Ahead.text text, g.itemsOf g.foreignItem]

def module (g : Grammar) : Reader Tokens := do
  let head ← seq [maybeWord "unsafe", word "mod", takeIf (Ahead.oneOf [Ahead.name, Ahead.word "try"]) 1]
  if ← next (Ahead.mark ";") then return head ++ (← mark ";")
  else return head ++ (← g.itemsOf g.item)

/-- A static value behind its visibility, with or without a type and a value, and whether it lacks one
of them. -/
def staticItem (g : Grammar) : Reader (Tokens × Bool) := do
  let head ← seq [word "static", maybeWord "mut", name]
  let hasType ← next (Ahead.none (Ahead.mark "="))
  let type ← if hasType then seq [mark ":", g.typeTokens] else pure []
  let value ← g.definition
  let close ← mark ";"
  return (head ++ type ++ value ++ close, !hasType || value.isEmpty)

def library : Reader Tokens :=
  seq
    [word "extern", word "crate", takeIf (Ahead.oneOf [Ahead.name, Ahead.word "self"]) 1,
      optional (Ahead.word "as") (seq [anyWord, nameOrGap]), mark ";"]

/-- A definition by tokens: a name, parameters in parentheses or none, and a body. -/
def tokenDefinition : Reader Tokens :=
  seq
    [word "macro", name, optional (Ahead.group .parenthesis) (groupOf .parenthesis), groupOf .brace]

def namedInvocation : Reader Tokens := do
  let head ← seq [plainPath, mark "!", optional (Ahead.oneOf [Ahead.name, Ahead.word "try"]) anyWord]
  let body ← anyGroup
  if endInBlock body then return head ++ body else return head ++ body ++ (← mark ";")

def anyItem (g : Grammar) : Reader Tokens := asReadIf do
  let attributes ← g.outerAttributes
  let atStart ← get
  let seen ← visibility
  let s ← get
  let second (t : Test) : Bool := Ahead.second t s
  if Ahead.word "impl" s || (Ahead.word "default" s && !second (Ahead.mark "!")) ||
      (Ahead.word "unsafe" s && second (Ahead.word "impl")) then
    set atStart
    let (tokens, isMarked) ← g.implementation
    return (attributes ++ tokens, isMarked)
  else
    let head := attributes ++ seen
    if startsFunction false s then
      let (tokens, hasBody) ← g.functionItem false
      return (head ++ tokens, !hasBody)
    if Ahead.word "static" s then
      let (tokens, isLacking) ← g.staticItem
      return (head ++ tokens, isLacking)
    if Ahead.word "const" s then
      let (tokens, isGeneric, hasValue) ← g.constantItem
      return (head ++ tokens, isGeneric || !hasValue)
    if Ahead.word "type" s then
      let (tokens, hasColon, isDefined) ← g.typeDefinition .beforeDefinition
      return (head ++ tokens, hasColon || !isDefined)
    let rest ←
      if Ahead.word "extern" s && second (Ahead.word "crate") then library
      else if Ahead.word "extern" s || (Ahead.word "unsafe" s && second (Ahead.word "extern")) then
        if seen.isEmpty then g.foreignModule else refuse
      else if Ahead.word "use" s then g.useItem
      else if Ahead.word "mod" s || (Ahead.word "unsafe" s && second (Ahead.word "mod")) then g.module
      else if Ahead.word "struct" s then seq [anyWord, name, g.generics, g.structRest]
      else if Ahead.word "enum" s then
        seq [anyWord, name, g.generics, g.whereClause, group .brace (commaList g.variant)]
      else if Ahead.word "union" s && second Ahead.name then
        seq [anyWord, name, g.generics, g.whereClause, g.namedFields]
      else if Ahead.word "trait" s || (Ahead.word "auto" s && second (Ahead.word "trait")) ||
          (Ahead.word "unsafe" s && second (Ahead.wordOf ["trait", "auto"])) then g.traitItemRest
      else if Ahead.word "macro" s then tokenDefinition
      else if startsInvocation s && seen.isEmpty then namedInvocation
      else refuse
    return (head ++ rest, false)

end AttributeSchema.Source.Grammar
