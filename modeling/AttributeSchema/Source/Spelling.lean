import AttributeSchema.Source.Syntax
/-!
# Spelling of syntax trees

The tokens of a syntax tree, one after the other, and their text without blanks between them.
-/

namespace AttributeSchema.Source

/-! ### Small parts -/

def marksOf : List Char → List Token
  | [] => []
  | [c] => [.mark c false]
  | c :: rest => .mark c true :: marksOf rest

def marks (text : String) : List Token := marksOf text.toList

def nameTokens (name : String) : List Token :=
  match name.toList with
  | '\'' :: rest => [.mark '\'' true, .word (String.ofList rest)]
  | _ => [.word name]

def tokensIf (condition : Bool) (tokens : List Token) : List Token := if condition then tokens else []

def separatedTokens (separator : String) (items : List (List Token)) (hasTrailing : Bool) :
    List Token :=
  List.intercalate (marks separator) items ++ tokensIf hasTrailing (marks separator)

def globalMark (isGlobal : Bool) : List Token := tokensIf isGlobal (marks "::")

def FunctionHead.tokens (h : FunctionHead) : List Token :=
  tokensIf h.isUnsafe [.word "unsafe"] ++
    (match h.convention with
      | none => []
      | some none => [.word "extern"]
      | some (some text) => [.word "extern", .literal text]) ++ [.word "fn"]

def BoundsKeyword.tokens : BoundsKeyword → List Token
  | dynamic => [.word "dyn"]
  | abstract => [.word "impl"]
  | absent => []

def literalToken (text : String) : Token :=
  if text == "true" || text == "false" then .word text else .literal text

/-- The tokens of a member: a name, or a number in decimal notation. -/
def memberToken (name : String) : Token :=
  if name.toList.head?.any Char.isDigit then .literal name else .word name

def labelTokens : Option String → List Token
  | none => []
  | some n => nameTokens n ++ marks ":"

def ClosureHead.tokens (h : ClosureHead) : List Token :=
  tokensIf h.isConst [.word "const"] ++ tokensIf h.isStatic [.word "static"] ++
    tokensIf h.isAsync [.word "async"] ++ tokensIf h.isMove [.word "move"]

def BlockHead.tokens : BlockHead → List Token
  | plain => []
  | labelled n => labelTokens (some n)
  | unchecked => [.word "unsafe"]
  | constant => [.word "const"]
  | attempt => [.word "try"]
  | later isMove => .word "async" :: tokensIf isMove [.word "move"]

/-! ### Trees -/

mutual

def Ty.tokens : Ty → List Token
  | .path isGlobal segments =>
    globalMark isGlobal ++ separatedTokens "::" (Segment.tokensList segments) false
  | .qualified self isGlobal traitLength segments =>
    let parts := Segment.tokensList segments
    let before :=
      if traitLength = 0 then []
      else .word "as" :: globalMark isGlobal ++ separatedTokens "::" (parts.take traitLength) false
    marks "<" ++ self.tokens ++ before ++ marks ">" ++ marks "::" ++
      separatedTokens "::" (parts.drop traitLength) false
  | .reference lifetime isMutable target =>
    marks "&" ++ (lifetime.map nameTokens).getD [] ++ tokensIf isMutable [.word "mut"] ++
      target.tokens
  | .pointer isMutable target =>
    marks "*" ++ [.word (if isMutable then "mut" else "const")] ++ target.tokens
  | .slice element => [.group .bracket element.tokens]
  | .array element length => [.group .bracket (element.tokens ++ marks ";" ++ length.tokens)]
  | .tuple elements trailing =>
    [.group .parenthesis (separatedTokens "," (Ty.tokensList elements) trailing)]
  | .parenthesized inner => [.group .parenthesis inner.tokens]
  | .never => marks "!"
  | .inferred => [.word "_"]
  | .bounded keyword bounds trailing =>
    keyword.tokens ++ separatedTokens "+" (Bound.tokensList bounds) trailing
  | .function binder head parameters trailing =>
    binderTokens binder ++ head.tokens ++
      [.group .parenthesis (separatedTokens "," (Parameter.tokensList parameters) trailing)]
  | .functionTo binder head parameters trailing result =>
    binderTokens binder ++ head.tokens ++
      [.group .parenthesis (separatedTokens "," (Parameter.tokensList parameters) trailing)] ++
      marks "->" ++ result.tokens
  | .invocation isGlobal segments delimiter body =>
    globalMark isGlobal ++ separatedTokens "::" (Segment.tokensList segments) false ++ marks "!" ++
      [.group delimiter body]
  | .verbatim tokens => tokens

def Ty.tokensList : List Ty → List (List Token)
  | [] => []
  | t :: rest => t.tokens :: Ty.tokensList rest

def Parameter.tokens : Parameter → List Token
  | .mk attributes none type => attributes ++ type.tokens
  | .mk attributes (some n) type => attributes ++ .word n :: marks ":" ++ type.tokens
  | .variadic attributes none => attributes ++ marks "..."
  | .variadic attributes (some n) => attributes ++ .word n :: marks ":" ++ marks "..."

def Parameter.tokensList : List Parameter → List (List Token)
  | [] => []
  | p :: rest => p.tokens :: Parameter.tokensList rest

def Segment.tokens : Segment → List Token
  | .plain n => [.word n]
  | .angle n hasColons arguments trailing =>
    .word n :: globalMark hasColons ++ marks "<" ++
      separatedTokens "," (Argument.tokensList arguments) trailing ++ marks ">"
  | .call n inputs trailing =>
    [.word n, .group .parenthesis (separatedTokens "," (Ty.tokensList inputs) trailing)]
  | .callTo n inputs trailing result =>
    [.word n, .group .parenthesis (separatedTokens "," (Ty.tokensList inputs) trailing)] ++
      marks "->" ++ result.tokens

def Segment.tokensList : List Segment → List (List Token)
  | [] => []
  | s :: rest => s.tokens :: Segment.tokensList rest

def Argument.tokens : Argument → List Token
  | .lifetime n => nameTokens n
  | .type type => type.tokens
  | .const value => value.tokens
  | .assocType target type => target.tokens ++ marks "=" ++ type.tokens
  | .assocConst target value => target.tokens ++ marks "=" ++ value.tokens
  | .constraint target bounds trailing =>
    target.tokens ++ marks ":" ++ separatedTokens "+" (Bound.tokensList bounds) trailing

def Argument.tokensList : List Argument → List (List Token)
  | [] => []
  | a :: rest => a.tokens :: Argument.tokensList rest

def Bound.tokens : Bound → List Token
  | .lifetime n => nameTokens n
  | .trait isParenthesized isMaybe binder isGlobal segments =>
    let inner := tokensIf isMaybe (marks "?") ++ binderTokens binder ++ globalMark isGlobal ++
      separatedTokens "::" (Segment.tokensList segments) false
    if isParenthesized then [.group .parenthesis inner] else inner
  | .captures names trailing =>
    .word "use" :: marks "<" ++ separatedTokens "," (names.map nameTokens) trailing ++ marks ">"
  | .verbatim tokens => tokens

def Bound.tokensList : List Bound → List (List Token)
  | [] => []
  | b :: rest => b.tokens :: Bound.tokensList rest

def binderTokens : Option Binder → List Token
  | none => []
  | some (.mk parameters trailing) =>
    .word "for" :: marks "<" ++
      separatedTokens "," (GenericParameter.tokensList parameters) trailing ++ marks ">"

/-- The tokens of a generic parameter. A colon without bounds is left out. -/
def GenericParameter.tokens : GenericParameter → List Token
  | .lifetime attributes n bounds trailing =>
    attributes ++ nameTokens n ++
      tokensIf (!bounds.isEmpty)
        (marks ":" ++ separatedTokens "+" (bounds.map nameTokens) trailing)
  | .type attributes n bounds trailing =>
    attributes ++ .word n ::
      tokensIf (!bounds.isEmpty)
        (marks ":" ++ separatedTokens "+" (Bound.tokensList bounds) trailing)
  | .typeOr attributes n bounds trailing default =>
    attributes ++ .word n ::
      tokensIf (!bounds.isEmpty)
        (marks ":" ++ separatedTokens "+" (Bound.tokensList bounds) trailing) ++
      marks "=" ++ default.tokens
  | .const attributes n type => attributes ++ .word "const" :: .word n :: marks ":" ++ type.tokens
  | .constOr attributes n type default =>
    attributes ++ .word "const" :: .word n :: marks ":" ++ type.tokens ++ marks "=" ++ default.tokens

def GenericParameter.tokensList : List GenericParameter → List (List Token)
  | [] => []
  | p :: rest => p.tokens :: GenericParameter.tokensList rest

def Ty.resultTokens : Option Ty → List Token
  | none => []
  | some type => marks "->" ++ type.tokens

def Pat.tokens : Pat → List Token
  | .name isReference isMutable n inner =>
    tokensIf isReference [.word "ref"] ++ tokensIf isMutable [.word "mut"] ++ .word n ::
      Pat.innerTokens inner
  | .wildcard => [.word "_"]
  | .rest => marks ".."
  | .value value => value.tokens
  | .reference isMutable target => marks "&" ++ tokensIf isMutable [.word "mut"] ++ target.tokens
  | .parenthesized inner => [.group .parenthesis inner.tokens]
  | .tuple parts trailing =>
    [.group .parenthesis (separatedTokens "," (Pat.tokensList parts) trailing)]
  | .slice parts trailing => [.group .bracket (separatedTokens "," (Pat.tokensList parts) trailing)]
  | .constructor path parts trailing =>
    path.tokens ++ [.group .parenthesis (separatedTokens "," (Pat.tokensList parts) trailing)]
  | .struct path fields trailing =>
    path.tokens ++ [.group .brace (separatedTokens "," (FieldPat.tokensList fields) trailing)]
  | .choice hasBar cases => tokensIf hasBar (marks "|") ++ separatedTokens "|" (Pat.tokensList cases) false
  | .typed inner type => inner.tokens ++ marks ":" ++ type.tokens
  | .attributed attributes inner => attributes ++ inner.tokens
  | .verbatim tokens => tokens

def Pat.innerTokens : Option Pat → List Token
  | none => []
  | some p => marks "@" ++ p.tokens

def Pat.tokensList : List Pat → List (List Token)
  | [] => []
  | p :: rest => p.tokens :: Pat.tokensList rest

def FieldPat.tokensList : List FieldPat → List (List Token)
  | [] => []
  | .member attributes n pattern :: rest =>
    (attributes ++ memberToken n :: marks ":" ++ pattern.tokens) :: FieldPat.tokensList rest
  | .short attributes pattern :: rest =>
    (attributes ++ pattern.tokens) :: FieldPat.tokensList rest
  | .others attributes :: rest => (attributes ++ marks "..") :: FieldPat.tokensList rest

def Expr.tokens : Expr → List Token
  | .literal text => [literalToken text]
  | .path isGlobal segments =>
    globalMark isGlobal ++ separatedTokens "::" (Segment.tokensList segments) false
  | .qualified self isGlobal traitLength segments =>
    let parts := Segment.tokensList segments
    let before :=
      if traitLength = 0 then []
      else .word "as" :: globalMark isGlobal ++ separatedTokens "::" (parts.take traitLength) false
    marks "<" ++ self.tokens ++ before ++ marks ">" ++ marks "::" ++
      separatedTokens "::" (parts.drop traitLength) false
  | .inferred => [.word "_"]
  | .attributed attributes value => attributes ++ value.tokens
  | .unary operator operand => marks operator ++ operand.tokens
  | .reference isMutable target => marks "&" ++ tokensIf isMutable [.word "mut"] ++ target.tokens
  | .rawReference isMutable target =>
    marks "&" ++ [.word "raw", .word (if isMutable then "mut" else "const")] ++ target.tokens
  | .binary left operator right => left.tokens ++ marks operator ++ right.tokens
  | .parenthesized inner => [.group .parenthesis inner.tokens]
  | .cast value type => value.tokens ++ .word "as" :: type.tokens
  | .call function arguments trailing =>
    function.tokens ++
      [.group .parenthesis (separatedTokens "," (Expr.tokensList arguments) trailing)]
  | .methodCall receiver method arguments trailing =>
    receiver.tokens ++ marks "." ++ method.tokens ++
      [.group .parenthesis (separatedTokens "," (Expr.tokensList arguments) trailing)]
  | .field base n => base.tokens ++ marks "." ++ [memberToken n]
  | .attempt value => value.tokens ++ marks "?"
  | .index base index => base.tokens ++ [.group .bracket index.tokens]
  | .tuple elements trailing =>
    [.group .parenthesis (separatedTokens "," (Expr.tokensList elements) trailing)]
  | .array elements trailing =>
    [.group .bracket (separatedTokens "," (Expr.tokensList elements) trailing)]
  | .repeated value length => [.group .bracket (value.tokens ++ marks ";" ++ length.tokens)]
  | .range first isClosed last =>
    Expr.optionTokens first ++ marks (if isClosed then "..=" else "..") ++ Expr.optionTokens last
  | .closure binder head parameters trailing result body =>
    binderTokens binder ++ head.tokens ++ marks "|" ++
      separatedTokens "," (Pat.tokensList parameters) trailing ++ marks "|" ++
      Ty.resultTokens result ++ body.tokens
  | .struct path fields trailing =>
    path.tokens ++ [.group .brace (separatedTokens "," (FieldValue.tokensList fields) trailing)]
  | .letMatch pattern value => .word "let" :: pattern.tokens ++ marks "=" ++ value.tokens
  | .ifThen condition body => .word "if" :: condition.tokens ++ [.group .brace (Stmt.allTokens body)]
  | .ifElse condition body otherwise =>
    .word "if" :: condition.tokens ++ .group .brace (Stmt.allTokens body) :: .word "else" ::
      otherwise.tokens
  | .select value attributes arms =>
    .word "match" :: value.tokens ++ [.group .brace (attributes ++ Arm.allTokens arms)]
  | .forLoop label pattern values attributes body =>
    labelTokens label ++ .word "for" :: pattern.tokens ++ .word "in" :: values.tokens ++
      [.group .brace (attributes ++ Stmt.allTokens body)]
  | .whileLoop label condition attributes body =>
    labelTokens label ++ .word "while" :: condition.tokens ++
      [.group .brace (attributes ++ Stmt.allTokens body)]
  | .endlessLoop label attributes body =>
    labelTokens label ++ [.word "loop", .group .brace (attributes ++ Stmt.allTokens body)]
  | .block head attributes body =>
    head.tokens ++ [.group .brace (attributes ++ Stmt.allTokens body)]
  | .assign target value => target.tokens ++ marks "=" ++ value.tokens
  | .giveBack value => .word "return" :: Expr.optionTokens value
  | .yield value => .word "yield" :: Expr.optionTokens value
  | .leave label value => .word "break" :: (label.map nameTokens).getD [] ++ Expr.optionTokens value
  | .skip label => .word "continue" :: (label.map nameTokens).getD []
  | .invocation isGlobal segments delimiter body =>
    globalMark isGlobal ++ separatedTokens "::" (Segment.tokensList segments) false ++ marks "!" ++
      [.group delimiter body]
  | .verbatim tokens => tokens

def Expr.optionTokens : Option Expr → List Token
  | none => []
  | some e => e.tokens

def Expr.tokensList : List Expr → List (List Token)
  | [] => []
  | e :: rest => e.tokens :: Expr.tokensList rest

def FieldValue.tokensList : List FieldValue → List (List Token)
  | [] => []
  | .member attributes n value :: rest =>
    (attributes ++ memberToken n :: marks ":" ++ value.tokens) :: FieldValue.tokensList rest
  | .short attributes n :: rest => (attributes ++ [.word n]) :: FieldValue.tokensList rest
  | .others base :: rest => (marks ".." ++ Expr.optionTokens base) :: FieldValue.tokensList rest

def Expr.guardTokens : Option Expr → List Token
  | none => []
  | some e => .word "if" :: e.tokens

def Arm.allTokens : List Arm → List Token
  | [] => []
  | .mk attributes pattern guard body hasComma :: rest =>
    attributes ++ pattern.tokens ++ Expr.guardTokens guard ++ marks "=>" ++ body.tokens ++
      tokensIf hasComma (marks ",") ++ Arm.allTokens rest

def Expr.definitionTokens : Option Expr → List Token
  | none => []
  | some e => marks "=" ++ e.tokens

def Expr.otherwiseTokens : Option Expr → List Token
  | none => []
  | some e => .word "else" :: e.tokens

def Stmt.tokens : Stmt → List Token
  | .bind attributes pattern value otherwise =>
    attributes ++ .word "let" :: pattern.tokens ++ Expr.definitionTokens value ++
      Expr.otherwiseTokens otherwise ++ marks ";"
  | .expr value hasSemicolon => value.tokens ++ tokensIf hasSemicolon (marks ";")
  | .invocation attributes isGlobal segments delimiter body hasSemicolon =>
    attributes ++ globalMark isGlobal ++ separatedTokens "::" (Segment.tokensList segments) false ++
      marks "!" ++ .group delimiter body :: tokensIf hasSemicolon (marks ";")
  | .empty => marks ";"
  | .item tokens => tokens

def Stmt.allTokens : List Stmt → List Token
  | [] => []
  | s :: rest => s.tokens ++ Stmt.allTokens rest

end

def Path.tokens (p : Path) : List Token :=
  globalMark p.isGlobal ++ separatedTokens "::" (Segment.tokensList p.segments) false

/-! ### Texts -/

def Ty.spelling (t : Ty) : String := Token.spellings t.tokens

def Expr.spelling (e : Expr) : String := Token.spellings e.tokens

def Stmt.spellings (body : List Stmt) : String := Token.spellings (Stmt.allTokens body)

def FieldValue.spelling (f : FieldValue) : String :=
  Token.spellings (FieldValue.tokensList [f]).flatten

def Path.spelling (p : Path) : String := Token.spellings p.tokens

end AttributeSchema.Source
