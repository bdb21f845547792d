import AttributeSchema.Source.Literal
import AttributeSchema.Source.Rendering
/-!
# Items and files

A source file is documentation and items in order. Documentation is written as a comment that runs to
the end of its line where it can be, else as a block comment or as an attribute.
-/

namespace AttributeSchema.Source

open Layout

inductive Visibility
  | inherited
  | everyone
  | package
  deriving DecidableEq, Repr, Inhabited

inductive Attr
  | doc (text : String)
  | words (name : String) (items : List String)
  /-- A text for a key in parentheses behind a name. -/
  | setting (name key value : String)
  deriving DecidableEq, Repr, Inhabited

structure FieldItem where
  attributes : List Attr
  name : String
  type : Ty

structure FunctionItem where
  attributes : List Attr
  visibility : Visibility
  name : String
  /-- Whether the first parameter is a reference to the value itself. -/
  hasReceiver : Bool
  parameters : List (String × Ty)
  result : Ty
  body : List Stmt

inductive Item
  | import (path : Path)
  | importGroup (owner : String) (names : List String)
  | module (name : String)
  | function (f : FunctionItem)
  | struct (attributes : List Attr) (name : String) (fields : List FieldItem)
  | implementation (name : String) (functions : List FunctionItem)

structure File where
  docs : List String
  items : List Item

/-! ### Documentation -/

def withoutTrailingSpaces (s : List Char) : List Char :=
  (s.reverse.dropWhile (· == ' ')).reverse

/-- The lines of a text, at least one, with no line feed. -/
def splitLines : List Char → List (List Char)
  | [] => [[]]
  | '\n' :: rest => [] :: splitLines rest
  | c :: rest =>
    match splitLines rest with
    | [] => [[c]]
    | line :: more => (c :: line) :: more

/-- Lines without the blanks at their ends; the last one keeps them. -/
def trimmedLines : List (List Char) → List Char
  | [] => []
  | [line] => line
  | line :: rest => withoutTrailingSpaces line ++ '\n' :: trimmedLines rest

def marksArePaired (depth : Nat) : List Char → Bool
  | '/' :: '*' :: rest => marksArePaired (depth + 1) rest
  | '*' :: '/' :: rest =>
    match depth with
    | 0 => false
    | depth + 1 => marksArePaired depth rest
  | _ :: rest => marksArePaired depth rest
  | [] => depth == 0

def fitsBlockComment (s : List Char) : Bool := marksArePaired 0 s && s.getLast? != some '/'

def docDocs (isInner : Bool) (text : String) : List Doc :=
  let s := text.toList
  let startsWith (c : Char) : Bool := s.head? == some c
  if !s.contains '\n' && (isInner || !startsWith '/') then
    [word (if isInner then "//!" else "///"), word (String.ofList (withoutTrailingSpaces s)), hard]
  else if fitsBlockComment s && (isInner || !(startsWith '*' || startsWith '/')) then
    [word (if isInner then "/*!" else "/**"), word (String.ofList (trimmedLines (splitLines s))),
      word "*/", hard]
  else
    [word (if isInner then "#![" else "#["), word "doc = ", word (Literal.ofText text), word "]",
      space]

def commaWords : List String → List Doc
  | [] => []
  | [w] => [word w]
  | w :: rest => word w :: word "," :: space :: commaWords rest

def Attr.docs : Attr → List Doc
  | .doc text => docDocs false text
  | .words name items =>
    [word "#[", word name, word "(",
      cbox step
        (zero :: commaWords items ++ [blank 0 (-step)]),
      word ")", word "]", space]
  | .setting name key value =>
    [word "#[", word name, word "(",
      cbox step [zero, word key, word " = ", word (Literal.ofText value), blank 0 (-step)],
      word ")", word "]", space]

def attributeDocs (attributes : List Attr) : List Doc := attributes.flatMap Attr.docs

/-! ### Items -/

def Visibility.docs : Visibility → List Doc
  | inherited => []
  | everyone => [word "pub "]
  | package => [word "pub(crate) "]

def FunctionItem.docs (f : FunctionItem) : List Doc :=
  let receiver := if f.hasReceiver then [[word "&self"]] else []
  let parameters := f.parameters.map fun (name, type) => word name :: word ": " :: type.docs
  let inputs :=
    match receiver ++ parameters with
    | [] => []
    | first :: rest => [cbox 0 (outdentLast (zero :: separated (lastComma 0 0) (first :: rest)))]
  attributeDocs f.attributes ++
    [cbox step
      (f.visibility.docs ++ [word "fn ", word f.name, word "(", firm] ++ inputs ++
        [word ")", cbox (-step) (word " -> " :: f.result.docs), word " ", word "\x7b"] ++
        bracedBody (Stmt.allDocs f.body)),
      word "\x7d", hard]

def FieldItem.docs (f : FieldItem) : List Doc :=
  attributeDocs f.attributes ++
    [word "pub ", word f.name, word ": "] ++ f.type.docs ++ [word ",", hard]

def Item.docs : Item → List Doc
  | .import path =>
    word "use " :: globalWord path.isGlobal ++
      joinedBy "::" (Segment.docsList .plain path.segments) ++ [word ";", hard]
  | .importGroup owner names =>
    [word "use ", word "crate", word "::", word owner, word "::", word "\x7b",
      cbox step [zero, ibox 0 (commaWords names), lastComma 0 (-step)], word "\x7d", word ";", hard]
  | .module name => [cbox step [word "pub ", word "mod ", word name, word ";"], hard]
  | .function f => f.docs
  | .struct attributes name fields =>
    attributeDocs attributes ++
      [cbox step
        (word "pub " :: word "struct " :: word name :: word " " :: word "\x7b" ::
          bracedBody (fields.flatMap FieldItem.docs)),
        word "\x7d", hard]
  | .implementation name functions =>
    [cbox step
      (ibox (-step) [cbox step [word "impl"], word " ", word name] :: word " " :: word "\x7b" ::
        bracedBody (functions.flatMap FunctionItem.docs)),
      word "\x7d", hard]

def File.text (f : File) : String :=
  render [cbox 0 (f.docs.flatMap (docDocs true) ++ f.items.flatMap Item.docs)]

/-! ### Paths that an import takes -/

/-- Words that an import takes although they are keywords. -/
def importWords : List String := ["self", "super", "crate", "try"]

def importFault? (isName : String → Bool) : List Segment → Option String
  | [] => none
  | s :: rest =>
    let startFault := "expected one of: identifier, \x60self\x60, \x60super\x60, \x60crate\x60, " ++
      "\x60try\x60, \x60*\x60, curly braces"
    if !(isName s.name || importWords.contains s.name) then some startFault
    else
      match s with
      | .plain _ => importFault? isName rest
      | .angle _ true _ _ => some startFault
      | .angle _ false _ _ => some "expected \x60;\x60"
      | .call .. => some "expected \x60;\x60"
      | .callTo .. => some "expected \x60;\x60"

end AttributeSchema.Source
