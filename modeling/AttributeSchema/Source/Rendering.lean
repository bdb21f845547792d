import AttributeSchema.Source.Rendering.Place
import AttributeSchema.Source.Rendering.Tokens
/-!
# Documents of syntax trees

How types, patterns, expressions and statements are laid out. Inside angle brackets lifetimes come first,
empty brackets are left out, and bounds without a keyword get the keyword of trait objects.
-/

namespace AttributeSchema.Source

open Layout

mutual

def Ty.docs : Ty → List Doc
  | .path isGlobal segments => globalWord isGlobal ++ joinedBy "::" (Segment.docsList .type segments)
  | .qualified self isGlobal traitLength segments =>
    let parts := Segment.docsList .type segments
    let before :=
      if traitLength = 0 then []
      else word " as " :: globalWord isGlobal ++ joinedBy "::" (parts.take traitLength)
    word "<" :: self.docs ++ before ++ word ">::" :: joinedBy "::" (parts.drop traitLength)
  | .reference lifetime isMutable target =>
    word "&" ::
      (match lifetime with
        | some l => [word l, word " "]
        | none => []) ++
      (if isMutable then [word "mut "] else []) ++ target.docs
  | .pointer isMutable target => word (if isMutable then "*mut " else "*const ") :: target.docs
  | .slice element => word "[" :: element.docs ++ [word "]"]
  | .array element length => word "[" :: element.docs ++ word "; " :: length.docs .operand ++ [word "]"]
  | .tuple elements _ => tupleDocs (Ty.docsList elements)
  | .parenthesized inner => word "(" :: inner.docs ++ [word ")"]
  | .never => [word "!"]
  | .inferred => [word "_"]
  | .bounded keyword bounds _ =>
    word (if keyword = .abstract then "impl " else "dyn ") :: joinedBy " + " (Bound.docsList bounds)
  | .function binder head parameters _ =>
    binderDocs binder ++
      enclosedWith (lastParameterBreak parameters) head.text ")" (Parameter.docsList parameters)
  | .functionTo binder head parameters _ result =>
    binderDocs binder ++
      enclosedWith (lastParameterBreak parameters) head.text ")" (Parameter.docsList parameters) ++
      word " -> " :: result.docs
  | .invocation isGlobal segments delimiter body =>
    globalWord isGlobal ++ joinedBy "::" (Segment.docsList .plain segments) ++
      bodyDocs delimiter body
  | .verbatim tokens => tokenDocs tokens

def Ty.docsList : List Ty → List (List Doc)
  | [] => []
  | t :: rest => t.docs :: Ty.docsList rest

def Parameter.docs : Parameter → List Doc
  | .mk attributes none type => attributeTokenDocs attributes ++ type.docs
  | .mk attributes (some n) type =>
    attributeTokenDocs attributes ++ word n :: word ": " :: type.docs
  | .variadic attributes none => attributeTokenDocs attributes ++ [word "..."]
  | .variadic attributes (some n) =>
    attributeTokenDocs attributes ++ [word n, word ": ", word "..."]

def Parameter.docsList : List Parameter → List (List Doc)
  | [] => []
  | p :: rest => p.docs :: Parameter.docsList rest

def Segment.docs (place : PathPlace) : Segment → List Doc
  | .plain n => [word n]
  | .angle n _ arguments _ =>
    if arguments.isEmpty || place = .plain then [word n]
    else
      word n :: (if place = .expression then [word "::"] else []) ++
        enclosed "<" ">" (Argument.docsList arguments)
  | .call n inputs _ => [word n, cbox step (outdentInside (Ty.docsList inputs) [])]
  | .callTo n inputs _ result =>
    [word n, cbox step (outdentInside (Ty.docsList inputs) (word " -> " :: result.docs))]

def Segment.docsList (place : PathPlace) : List Segment → List (List Doc)
  | [] => []
  | s :: rest => s.docs place :: Segment.docsList place rest

def Argument.docs : Argument → List Doc
  | .lifetime n => [word n]
  | .type type => type.docs
  | .const value => value.docs .operand
  | .assocType target type => target.docs .type ++ word " = " :: type.docs
  | .assocConst target value => target.docs .type ++ word " = " :: value.docs .operand
  | .constraint target bounds _ =>
    target.docs .type ++ [ibox step (constraintDocs true (Bound.docsList bounds))]

def Argument.docsList : List Argument → List (List Doc)
  | [] => []
  | a :: rest => a.docs :: Argument.docsList rest

def Bound.docs : Bound → List Doc
  | .lifetime n => [word n]
  | .trait isParenthesized isMaybe binder isGlobal segments =>
    (if isParenthesized then [word "("] else []) ++ (if isMaybe then [word "?"] else []) ++
      binderDocs binder ++ globalWord isGlobal ++
      joinedBy "::" (Segment.docsList .type segments) ++ (if isParenthesized then [word ")"] else [])
  | .captures names _ => [word ("use<" ++ String.intercalate ", " names ++ ">")]
  | .verbatim tokens => tokenDocs tokens

def Bound.docsList : List Bound → List (List Doc)
  | [] => []
  | b :: rest => b.docs :: Bound.docsList rest

def binderDocs : Option Binder → List Doc
  | none => []
  | some (.mk parameters _) =>
    word "for<" :: joinedBy ", " (GenericParameter.docsList parameters) ++ [word "> "]

def GenericParameter.docs : GenericParameter → List Doc
  | .lifetime attributes n bounds _ =>
    attributeTokenDocs attributes ++
      [word (if bounds.isEmpty then n else n ++ ": " ++ String.intercalate " + " bounds)]
  | .type attributes n bounds _ =>
    attributeTokenDocs attributes ++
      [word n, ibox step (constraintDocs true (Bound.docsList bounds))]
  | .typeOr attributes n bounds _ default =>
    attributeTokenDocs attributes ++
      [word n,
        ibox step
          (constraintDocs true (Bound.docsList bounds) ++ space :: word "= " :: default.docs)]
  | .const attributes n type =>
    attributeTokenDocs attributes ++ word "const " :: word n :: word ": " :: type.docs
  | .constOr attributes n type default =>
    attributeTokenDocs attributes ++
      word "const " :: word n :: word ": " :: type.docs ++ word " = " :: default.docs .operand

def GenericParameter.docsList : List GenericParameter → List (List Doc)
  | [] => []
  | p :: rest => p.docs :: GenericParameter.docsList rest

def Pat.docs : Pat → List Doc
  | .name isReference isMutable n inner =>
    (if isReference then [word "ref "] else []) ++ (if isMutable then [word "mut "] else []) ++
      word n :: Pat.innerDocs inner
  | .wildcard => [word "_"]
  | .rest => [word ".."]
  | .value value => value.docs .operand
  | .reference isMutable target =>
    word "&" :: (if isMutable then [word "mut "] else []) ++ target.docs
  | .parenthesized inner => word "(" :: inner.docs ++ [word ")"]
  | .tuple parts hasTrailingComma => tuplePartDocs hasTrailingComma (Pat.docsList parts)
  | .slice parts _ => enclosed "[" "]" (Pat.docsList parts)
  | .constructor path parts _ => path.docs .operand ++ enclosed "(" ")" (Pat.docsList parts)
  | .struct path fields _ => membersDocs false (path.docs .operand) (FieldPat.allDocs fields)
  | .choice _ cases =>
    [if arePlain cases then ibox 0 (caseDocs (Pat.docsList cases))
      else cbox 0 (caseDocs (Pat.docsList cases))]
  | .typed inner type => inner.docs ++ word ": " :: type.docs
  | .attributed attributes inner => attributeTokenDocs attributes ++ inner.docs
  | .verbatim tokens => tokenDocs tokens

/-- The documents of a pattern behind the mark that binds a name to it. -/
def Pat.innerDocs : Option Pat → List Doc
  | none => []
  | some p => word " @ " :: p.docs

def Pat.docsList : List Pat → List (List Doc)
  | [] => []
  | p :: rest => p.docs :: Pat.docsList rest

def FieldPat.allDocs : List FieldPat → List Doc
  | [] => []
  | .member attributes n pattern :: rest =>
    attributeTokenDocs attributes ++ word n :: word ": " :: pattern.docs ++ behindPart rest ++
      FieldPat.allDocs rest
  | .short attributes pattern :: rest =>
    attributeTokenDocs attributes ++ pattern.docs ++ behindPart rest ++ FieldPat.allDocs rest
  | .others attributes :: rest =>
    attributeTokenDocs attributes ++ word ".." :: space :: FieldPat.allDocs rest

def Expr.docs (place : Place) : Expr → List Doc
  | .literal text => place.own [word text]
  | .path isGlobal segments =>
    place.own (globalWord isGlobal ++ joinedBy "::" (Segment.docsList .expression segments))
  | .qualified self isGlobal traitLength segments =>
    let inTrait := (Segment.docsList .type segments).take traitLength
    let before :=
      if traitLength = 0 then []
      else word " as " :: globalWord isGlobal ++ joinedBy "::" inTrait
    place.own
      (word "<" :: self.docs ++ before ++ word ">::" ::
        joinedBy "::" ((Segment.docsList .expression segments).drop traitLength))
  | .inferred => place.own [word "_"]
  | .attributed attributes value =>
    place.own (attributeTokenDocs attributes ++ value.docs place.first)
  | .unary operator operand => place.own (word operator :: operand.docs .operand)
  | .reference isMutable target =>
    place.own (word "&" :: (if isMutable then [word "mut "] else []) ++ target.docs .operand)
  | .rawReference isMutable target =>
    place.own (word (if isMutable then "&raw mut " else "&raw const ") :: target.docs .operand)
  | .binary left operator right =>
    place.own
      [ibox step
        (ibox (-step) (left.docs .operand) :: space :: word operator :: word " " ::
          right.docs .operand)]
  | .parenthesized inner => place.own (word "(" :: inner.docs .operand ++ [word ")"])
  | .cast value type =>
    place.own [ibox step (ibox (-step) (value.docs .operand) :: space :: word "as " :: type.docs)]
  | .call function arguments _ =>
    place.framed
      (function.docs place.callee ++ word "(" :: Expr.argumentDocs arguments ++ [word ")"])
  | .methodCall receiver method arguments _ =>
    place.chain
      (receiver.docs (.receiver place.isStart) ++ place.pointBreak receiver ++ word "." ::
        method.docs .expression ++
        [cbox (place.argumentStep receiver)
          (word "(" :: Expr.argumentDocs arguments ++ [word ")"])])
  | .field base n =>
    place.chain
      (base.docs (.receiver place.isStart) ++ place.pointBreak base ++ [word ".", word n])
  | .attempt value => place.framed (value.docs place.leftmost ++ [word "?"])
  | .index base index =>
    place.framed (base.docs place.leftmost ++ word "[" :: index.docs .operand ++ [word "]"])
  | .tuple [] _ =>
    match place with
    | .arm _ => [word "\x7b", word "\x7d"]
    | _ => place.own (tupleDocs [])
  | .tuple (e :: rest) _ => place.own (tupleDocs (e.docs .operand :: Expr.docsList rest))
  | .array elements _ => place.own (arrayDocs (areSmall elements) (Expr.docsList elements))
  | .repeated value length =>
    place.own (word "[" :: value.docs .operand ++ word "; " :: length.docs .operand ++ [word "]"])
  | .range first isClosed last =>
    place.own
      (Expr.partDocs first ++ word (if isClosed then "..=" else "..") :: Expr.partDocs last)
  | .closure binder head parameters _ none body =>
    let body' :=
      if body.standsAlone then body.docs .operand
      else [(Frame.ofClosure body).around (body.docs .operand)]
    place.own
      [ibox 0
        (binderDocs binder ++ head.docs ++
          cbox step
            (word "|" :: closureInputs (Pat.docsList parameters) ++ [word "|", blank 1 (-step)]) ::
          firm :: body')]
  | .closure binder head parameters _ (some result) body =>
    let inputs := Pat.docsList parameters
    place.own
      [ibox 0
        (binderDocs binder ++ head.docs ++
          cbox step (word "|" :: closureInputs inputs ++ closureEnd inputs ++ [word "|"]) ::
          word " -> " :: result.docs ++ word " " :: firm :: body.docs .operand)]
  | .struct path fields _ =>
    place.own (membersDocs true [ibox (-step) (path.docs .operand)] (FieldValue.allDocs fields))
  | .letMatch pattern value =>
    place.own (word "let " :: pattern.docs ++ word " = " :: firm :: value.docs .operand)
  | .ifThen condition body =>
    let test :=
      [word "if ",
        cbox (-step) [beforeBrace condition.breaksBeforeBrace (condition.docs .operand)]]
    match place with
    | .alternative => test ++ Stmt.blockDocs [] body
    | _ =>
      place.own
        [cbox step
          (test ++ word "\x7b" ::
            (if body.isEmpty then [] else outdentLast (hard :: Stmt.allDocs body)) ++
            [word "\x7d"])]
  | .ifElse condition body otherwise =>
    place.cases
      (word "if " ::
        cbox (-step) [beforeBrace condition.breaksBeforeBrace (condition.docs .operand)] ::
        Stmt.blockDocs [] body ++ word " else " :: otherwise.docs .alternative)
  | .select value attributes arms =>
    place.own
      [ibox 0
        (word "match " :: beforeBrace value.breaksBeforeBrace (value.docs .operand) ::
          bodyBox (attributeTokenDocs attributes ++ Arm.allDocs arms))]
  | .forLoop label pattern values attributes body =>
    place.own
      [ibox 0
        (labelDocs label ++ word "for " :: pattern.docs ++ word " in " :: firm ::
          beforeBrace values.breaksBeforeBrace (values.docs .operand) ::
          bodyBox (attributeTokenDocs attributes ++ Stmt.allDocs body))]
  | .whileLoop label condition attributes body =>
    place.own
      (labelDocs label ++ word "while " ::
        beforeBrace condition.breaksBeforeBrace (condition.docs .operand) ::
        bodyBox (attributeTokenDocs attributes ++ Stmt.allDocs body))
  | .endlessLoop label attributes body =>
    place.own
      (labelDocs label ++
        [word "loop \x7b",
          cbox step (bracedBody (attributeTokenDocs attributes ++ Stmt.allDocs body)),
          word "\x7d"])
  | .block .plain [] [.expr inner false] =>
    match place with
    | .arm _ => inner.docs place
    | _ =>
      place.block []
        [word "\x7b", space, ibox 0 (inner.docs .start), blank 1 (-step), word "\x7d"] []
  | .block .plain attributes body =>
    place.block [] (Stmt.blockDocs attributes body)
      (attributeTokenDocs attributes ++ Stmt.allDocs body)
  | .block (.labelled name) attributes body =>
    place.block [word name, word ": "] (Stmt.blockDocs attributes body)
      (attributeTokenDocs attributes ++ Stmt.allDocs body)
  | .block head attributes body =>
    place.own (head.docs ++ [cbox step (Stmt.blockDocs attributes body)])
  | .assign target value =>
    place.own [ibox 0 (target.docs place.first ++ word " = " :: firm :: value.docs .operand)]
  | .giveBack value => place.own (word "return" :: Expr.valueDocs value)
  | .yield value => place.own (word "yield" :: Expr.valueDocs value)
  | .leave label value => place.own (word "break" :: targetDocs label ++ Expr.valueDocs value)
  | .skip label => place.own (word "continue" :: targetDocs label)
  | .invocation isGlobal segments delimiter body =>
    place.own
      (globalWord isGlobal ++ joinedBy "::" (Segment.docsList .plain segments) ++
        bodyDocs delimiter body)
  | .verbatim tokens => place.own (tokenDocs tokens)

/-- The documents of a side of a range, which may be missing. -/
def Expr.partDocs : Option Expr → List Doc
  | none => []
  | some e => e.docs .operand

/-- The documents of the value behind a keyword, which may be missing. -/
def Expr.valueDocs : Option Expr → List Doc
  | none => []
  | some e => word " " :: e.docs .operand

/-- The documents of the guard of an arm, which may be missing. -/
def Expr.guardDocs : Option Expr → List Doc
  | none => []
  | some e => word " if " :: e.docs .operand

def Expr.argumentDocs : List Expr → List Doc
  | [] => []
  | [single] =>
    if single.isBlocklike then single.docs .operand
    else [cbox step (zero :: separated (lastComma 0 (-step)) [single.docs .operand])]
  | e :: rest =>
    [cbox step (zero :: separated (lastComma 0 (-step)) (e.docs .operand :: Expr.docsList rest))]

def Expr.docsList : List Expr → List (List Doc)
  | [] => []
  | e :: rest => e.docs .operand :: Expr.docsList rest

def FieldValue.allDocs : List FieldValue → List Doc
  | [] => []
  | .member attributes n value :: rest =>
    attributeTokenDocs attributes ++ word n :: word ": " :: ibox 0 (value.docs .operand) ::
      behindField rest ++ FieldValue.allDocs rest
  | .short attributes n :: rest =>
    attributeTokenDocs attributes ++ word n :: behindField rest ++ FieldValue.allDocs rest
  | .others none :: rest => FieldValue.allDocs rest
  | .others (some base) :: rest =>
    word ".." :: base.docs .operand ++ space :: FieldValue.allDocs rest

def Arm.allDocs : List Arm → List Doc
  | [] => []
  | .mk attributes pattern guard body _ :: rest =>
    attributeTokenDocs attributes ++
      ibox 0
        (pattern.docs ++ Expr.guardDocs guard ++ word " => " ::
          body.docs (.arm (Frame.ofArm body.armBody))) ::
      hard :: Arm.allDocs rest

/-- The documents of a block: a single expression may share the line of the braces. -/
def Stmt.blockDocs (attributes : List Token) : List Stmt → List Doc
  | [] =>
    if attributes.isEmpty then [word "\x7b", word "\x7d"]
    else word "\x7b" :: outdentLast (space :: attributeTokenDocs attributes) ++ [word "\x7d"]
  | [.expr value false] =>
    word "\x7b" :: space :: attributeTokenDocs attributes ++
      [ibox 0 (value.docs .start), blank 1 (-step), word "\x7d"]
  | s :: rest =>
    word "\x7b" :: outdentLast (space :: attributeTokenDocs attributes ++ s.docs ++ Stmt.allDocs rest) ++
      [word "\x7d"]

def Stmt.docs : Stmt → List Doc
  | .bind attributes pattern none _ =>
    attributeTokenDocs attributes ++ [ibox 0 (word "let " :: pattern.docs), word ";", hard]
  | .bind attributes pattern (some value) none =>
    attributeTokenDocs attributes ++
      [ibox 0 (word "let " :: pattern.docs ++ word " = " :: firm :: value.docs .operand), word ";",
        hard]
  | .bind attributes pattern (some value) (some otherwise) =>
    attributeTokenDocs attributes ++
      [ibox 0
        (word "let " :: pattern.docs ++ word " = " :: firm :: value.docs .operand ++
          [space, word "else "]),
        firm, cbox step (otherwise.docs .alternative), word ";", hard]
  | .expr value hasSemicolon =>
    let semicolon :=
      if (if hasSemicolon then !value.losesSemicolon else value.wantsSemicolon) then [word ";"]
      else []
    [ibox 0 (value.docs .start ++ semicolon), hard]
  | .invocation attributes isGlobal segments delimiter body hasSemicolon =>
    attributeTokenDocs attributes ++ globalWord isGlobal ++
      joinedBy "::" (Segment.docsList .plain segments) ++ bodyDocs delimiter body ++
      (if hasSemicolon && delimiter != .brace then [word ";"] else []) ++ [hard]
  | .empty => []
  | .item tokens => tokenDocs tokens ++ [hard]

def Stmt.allDocs : List Stmt → List Doc
  | [] => []
  | s :: rest => s.docs ++ Stmt.allDocs rest

end

end AttributeSchema.Source
