import AttributeSchema.Source.Layout
import AttributeSchema.Source.Token
/-!
# Documents of tokens

Tokens without a tree, such as those of an invocation, are laid out with a blank or no blank between each
two, which depends on what they are.
-/

namespace AttributeSchema.Source

open Layout

inductive Spacing
  | dollar
  | dollarParenthesis
  | dollarParenthesisMark
  | pound
  | poundBang
  | dot
  | colon
  | doubleColon
  | word
  | wordBang
  | delimited
  | other
  deriving DecidableEq, Repr, Inhabited

/-- Words that get a blank even behind a point. -/
def isReserved (w : String) : Bool :=
  ["as", "async", "await", "box", "break", "const", "continue", "crate", "dyn", "else", "enum",
    "extern", "fn", "for", "if", "impl", "in", "let", "loop", "macro", "match", "mod", "move", "mut",
    "pub", "ref", "return", "static", "struct", "super", "trait", "type", "unsafe", "use", "where",
    "while", "yield"].contains w

def Spacing.next (state : Spacing) (t : Token) : Bool × Spacing :=
  match state, t with
  | dollar, .word _ => (false, other)
  | dollarParenthesis, .mark '+' false => (false, other)
  | dollarParenthesis, .mark '*' false => (false, other)
  | dollarParenthesis, .mark '?' false => (false, other)
  | dollarParenthesis, .word _ => (false, dollarParenthesisMark)
  | dollarParenthesis, .literal _ => (false, dollarParenthesisMark)
  | dollarParenthesis, .mark _ true => (false, dollarParenthesis)
  | dollarParenthesis, .mark _ false => (false, dollarParenthesisMark)
  | dollarParenthesisMark, .mark '+' _ => (false, other)
  | dollarParenthesisMark, .mark '*' _ => (false, other)
  | pound, .mark '!' _ => (false, poundBang)
  | dollar, .group .parenthesis _ => (false, dollarParenthesis)
  | pound, .group .bracket _ => (false, other)
  | poundBang, .group .bracket _ => (false, other)
  | word, .group .parenthesis _ => (false, delimited)
  | word, .group .bracket _ => (false, delimited)
  | word, .mark '!' false => (false, wordBang)
  | wordBang, .group .parenthesis _ => (false, other)
  | wordBang, .group .bracket _ => (false, other)
  | colon, .mark ':' _ => (false, doubleColon)
  | _, .group .parenthesis _ => (true, delimited)
  | _, .group .bracket _ => (true, delimited)
  | _, .group .brace _ => (true, other)
  | _, .word w =>
    if isReserved w then (true, other) else (state != dot && state != doubleColon, word)
  | _, .literal _ => (state != dot, word)
  | _, .mark ',' _ => (false, other)
  | _, .mark ';' _ => (false, other)
  | _, .mark '.' _ => (state != word && state != delimited, dot)
  | _, .mark ':' true => (state != word, colon)
  | _, .mark '$' _ => (true, dollar)
  | _, .mark '#' _ => (true, pound)
  | _, _ => (true, other)

def isJoined : Token → Bool
  | .mark '$' _ => true
  | .mark _ joint => joint
  | _ => false

mutual
def Token.docs : Token → List Doc
  | .word w => [Layout.word w]
  | .mark c _ => [Layout.word c.toString]
  | .literal l => [Layout.word l]
  | .group .parenthesis content =>
    Layout.word "(" :: Token.allDocs .other true content ++ [Layout.word ")"]
  | .group .bracket content =>
    Layout.word "[" :: Token.allDocs .other true content ++ [Layout.word "]"]
  | .group .brace [] => [Layout.word "\x7b", Layout.word "\x7d"]
  | .group .brace (t :: rest) =>
    [Layout.word "\x7b",
      cbox step [space, ibox 0 (Token.allDocs .other true (t :: rest)), blank 1 (-step)],
      Layout.word "\x7d"]

def Token.allDocs (state : Spacing) (follows : Bool) : List Token → List Doc
  | [] => []
  | t :: rest =>
    let (wantsBlank, next) := state.next t
    let gap :=
      if follows then []
      else if wantsBlank then [space]
      else match t with
        | .mark '.' _ => [zero]
        | _ => []
    gap ++ t.docs ++ Token.allDocs next (isJoined t) rest
end

def tokenDocs (tokens : List Token) : List Doc :=
  if tokens.isEmpty then [] else [ibox 0 (Token.allDocs .other true tokens)]

/-- The attributes of a parameter, which are kept as tokens. -/
def attributeTokenDocs (tokens : List Token) : List Doc :=
  if tokens.isEmpty then [] else Token.allDocs .other true tokens ++ [space]

def bodyDocs (delimiter : Delimiter) (body : List Token) : List Doc :=
  let (opening, closing, gap) :=
    match delimiter with
    | .parenthesis => ("(", ")", zero)
    | .brace => (" \x7b", "\x7d", hard)
    | .bracket => ("[", "]", zero)
  let inner :=
    if body.isEmpty then []
    else [cbox step (outdentLast [gap, ibox 0 (Token.allDocs .other true body), gap])]
  word "!" :: word opening :: inner ++ [word closing]

end AttributeSchema.Source
