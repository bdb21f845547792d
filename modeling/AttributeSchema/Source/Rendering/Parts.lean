import AttributeSchema.Source.Layout
import AttributeSchema.Source.Syntax
/-!
# Parts of documents

The layout of lists, heads and bodies, given the documents of what they consist of.
-/

namespace AttributeSchema.Source

open Layout

inductive PathPlace
  | plain
  | type
  | expression
  deriving DecidableEq, Repr

def FunctionHead.text (h : FunctionHead) : String :=
  (if h.isUnsafe then "unsafe " else "") ++
    (match h.convention with
      | none => ""
      | some none => "extern "
      | some (some name) => "extern " ++ name ++ " ") ++ "fn("

def ClosureHead.docs (h : ClosureHead) : List Doc :=
  (if h.isConst then [word "const "] else []) ++ (if h.isStatic then [word "static "] else []) ++
    (if h.isAsync then [word "async "] else []) ++ (if h.isMove then [word "move "] else [])

def BlockHead.docs : BlockHead → List Doc
  | plain => []
  | labelled name => [word name, word ": "]
  | unchecked => [word "unsafe "]
  | constant => [word "const "]
  | attempt => [word "try "]
  | later isMove => word "async " :: if isMove then [word "move "] else []

def labelDocs : Option String → List Doc
  | none => []
  | some name => [word name, word ": "]

def targetDocs : Option String → List Doc
  | none => []
  | some name => [word " ", word name]

def globalWord (isGlobal : Bool) : List Doc := if isGlobal then [word "::"] else []

def joinedBy (s : String) : List (List Doc) → List Doc
  | [] => []
  | [d] => d
  | d :: rest => d ++ word s :: joinedBy s rest

/-- The items of a tuple between parentheses; a single one keeps its comma. -/
def tupleDocs : List (List Doc) → List Doc
  | [item] => [word "(", cbox step (zero :: item ++ [word ",", blank 0 (-step)]), word ")"]
  | items => enclosed "(" ")" items

/-- The parts of a tuple pattern between parentheses; a single one has a comma where it was written. -/
def tuplePartDocs (hasTrailingComma : Bool) : List (List Doc) → List Doc
  | [part] =>
    let comma := if hasTrailingComma then [word ","] else []
    [word "(", cbox step (zero :: part ++ comma ++ [blank 0 (-step)]), word ")"]
  | parts => enclosed "(" ")" parts

/-- The values of an array between brackets, which share lines if they are small. -/
def arrayDocs (areSmall : Bool) (items : List (List Doc)) : List Doc :=
  match areSmall, items with
  | _, [] => [word "[]"]
  | true, items =>
    [cbox step [word "[", zero, ibox 0 (commaSeparated items), lastComma 0 (-step), word "]"]]
  | false, items => enclosed "[" "]" items

/-- The parameters of a closure between bars, with a break in front of the first one. -/
def closureInputs : List (List Doc) → List Doc
  | [] => []
  | inputs => zero :: commaSeparated inputs

def closureEnd : List (List Doc) → List Doc
  | [] => []
  | _ => [lastComma 0 (-step)]

def beforeBrace (breaks : Bool) (docs : List Doc) : Doc :=
  cbox 0 (docs ++ [if breaks then space else word " "])

/-- Statements in braces, each on lines of its own; the opening brace has been written. -/
def bracedBody (docs : List Doc) : List Doc :=
  if docs.isEmpty then [] else outdentLast (hard :: docs)

def bodyBox (docs : List Doc) : List Doc :=
  [word "\x7b", firm, cbox step (bracedBody docs), word "\x7d"]

/-- Members behind a name: on one line if there is nothing wide among them. -/
def membersDocs (isNarrow : Bool) (name members : List Doc) : List Doc :=
  let content := name ++ word " \x7b" :: outdentLast (space :: members)
  let isWide := isNarrow && 34 < Doc.widths content
  if members.isEmpty && !isWide then name ++ [word " \x7b", word "\x7d"]
  else [cbox step (if isWide then content ++ [.overflow] else content), word "\x7d"]

/-- The inputs of a call segment between parentheses, and what follows them in the same box. -/
def outdentInside (inputs : List (List Doc)) (behind : List Doc) : List Doc :=
  word "(" :: outdentLast (zero :: separated (lastComma 0 0) inputs) ++ word ")" :: behind

/-- The break behind the last parameter of a function type: no comma may follow the variadic mark. -/
def lastParameterBreak (parameters : List Parameter) : Doc :=
  match parameters.getLast? with
  | some (.variadic ..) => zero
  | _ => lastComma 0 0

def constraintDocs (isFirst : Bool) : List (List Doc) → List Doc
  | [] => []
  | b :: rest =>
    (if isFirst then [word ": "] else [space, word "+ "]) ++ b ++ constraintDocs false rest

def caseDocs : List (List Doc) → List Doc
  | [] => []
  | [case] => case
  | case :: rest => case ++ space :: word "| " :: caseDocs rest

/-- What stands behind a field of a struct expression: the mark for the others has no text without a
base. -/
def behindField : List FieldValue → List Doc
  | [] => [lastComma 1 0]
  | [.others none] => [lastComma 1 0]
  | _ => [word ",", space]

def behindPart : List FieldPat → List Doc
  | [] => [lastComma 1 0]
  | _ => [word ",", space]

end AttributeSchema.Source
