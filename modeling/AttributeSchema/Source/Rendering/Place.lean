import AttributeSchema.Source.Rendering.Parts
import AttributeSchema.Source.Rendering.Shapes
/-!
# Places of expressions

An expression is laid out in the same way wherever it stands, but for the box around it: a chain of
points shares one box, the cases of a condition share one box, and an arm gets braces if its line breaks.
-/

namespace AttributeSchema.Source

open Layout

/-- What an expression gets around it if it does not fit on the line. -/
structure Frame where
  /-- Whether it gets braces; else it gets parentheses. -/
  hasBraces : Bool
  /-- Whether a semicolon stands before the closing brace. -/
  hasSemicolon : Bool
  /-- Whether it is an arm, which a comma may end. -/
  isArm : Bool
  /-- Whether a comma follows on the same line. -/
  hasComma : Bool

def Frame.ofClosure (body : Expr) : Frame :=
  ⟨body.canStartStatement, body.wantsSemicolon, false, false⟩

def Frame.ofArm (body : Expr) : Frame :=
  ⟨body.canStartStatement, body.wantsSemicolon, true, !body.isClosed⟩

def Frame.around (f : Frame) (docs : List Doc) : Doc :=
  let opening := if f.hasBraces then '{' else '('
  let semicolon := if f.hasBraces && f.hasSemicolon then some ';' else none
  let closing := if f.hasBraces then "\x7d" else if f.isArm then ")," else ")"
  let comma := if f.hasComma then some ',' else none
  cbox step
    (.brk ⟨0, 0, some opening, "", none, false⟩ :: docs ++
      [.brk ⟨0, -step, semicolon, closing, comma, false⟩])

inductive Place
  | operand
  | start
  /-- Before a point, so that a chain goes on in the box that is open; the chain may start a
  statement. -/
  | receiver (atStart : Bool)
  | arm (frame : Frame)
  /-- Behind the word for the other case. -/
  | alternative

namespace Place

def isStart : Place → Bool
  | operand => false
  | start => true
  | receiver atStart => atStart
  | arm _ => true
  | alternative => false

def first : Place → Place
  | start => start
  | arm _ => start
  | _ => operand

def leftmost : Place → Place
  | receiver atStart => receiver atStart
  | place => place.first

def callee : Place → Place
  | receiver _ => receiver false
  | place => place.first

/-- Documents with what an arm and another case need around them. -/
def framed (place : Place) (docs : List Doc) : List Doc :=
  match place with
  | arm frame => [firm, frame.around docs]
  | alternative => [word "\x7b", space, ibox 0 docs, blank 1 (-step), word "\x7d"]
  | _ => docs

/-- Documents of what is no chain. If it starts one, they step out of the box of the chain. -/
def own (place : Place) (docs : List Doc) : List Doc :=
  match place with
  | receiver _ => [cbox (-step) docs]
  | _ => place.framed docs

/-- Documents of a chain, in a box of their own unless the chain goes on. -/
def chain (place : Place) (docs : List Doc) : List Doc :=
  match place with
  | receiver _ => docs
  | _ => place.framed [cbox step docs]

/-- Documents of a condition with its cases, which share the box of the condition before them. -/
def cases (place : Place) (docs : List Doc) : List Doc :=
  match place with
  | alternative => docs
  | _ => place.own [cbox step docs]

/-- Documents of a block: an arm has its statements on lines of their own, another case shares the box
of its condition. -/
def block (place : Place) (head small large : List Doc) : List Doc :=
  match place with
  | arm _ => head ++ bodyBox large
  | alternative => small
  | _ => place.own (head ++ [cbox step small])

/-- The step of the arguments of a method behind a short name, which is the start of its statement. -/
def argumentStep (place : Place) (receiver : Expr) : Int :=
  match place with
  | start => if receiver.isShortName then -step else 0
  | arm _ => if receiver.isShortName then -step else 0
  | _ => 0

/-- The break before a point: none behind a short name at the start of a statement. -/
def pointBreak (place : Place) (receiver : Expr) : List Doc :=
  if place.isStart && receiver.isShortName then []
  else if receiver.endsWithPoint then [.brk ⟨0, 0, none, "", some ' ', false⟩]
  else [zero]

end Place

end AttributeSchema.Source
