import AttributeSchema.Pattern.CharSet
/-!
# Patterns

A pattern describes pieces of texts. It matches a text if it describes some piece of it. Matching goes
through all pieces at once: from the places at which a piece may start, it computes the places at which
a piece may end.
-/

namespace AttributeSchema

namespace Pattern

inductive Look
  | textStart
  | textEnd
  /-- The start of a line, which carriage returns also end if they count. -/
  | lineStart (hasCarriageReturns : Bool)
  | lineEnd (hasCarriageReturns : Bool)
  /-- A place between a character of a word and another one, or the end of the text. -/
  | boundary (isAscii : Bool)
  | noBoundary (isAscii : Bool)
  | wordStart (isAscii : Bool)
  | wordEnd (isAscii : Bool)
  /-- A place behind no character of a word. -/
  | wordStartHalf (isAscii : Bool)
  /-- A place before no character of a word. -/
  | wordEndHalf (isAscii : Bool)
  deriving DecidableEq, Repr, Inhabited

inductive Node
  | empty
  | char (s : CharSet)
  | look (l : Look)
  | concat (a b : Node)
  | alternate (a b : Node)
  /-- A group that counts among those of the pattern. -/
  | capture (node : Node)
  /-- A node as often as the bounds allow. -/
  | repeated (node : Node) (least : Nat) (most : Option Nat)
  deriving DecidableEq, Repr, Inhabited

def isWordBeside (isAscii : Bool) : Option Char → Bool
  | none => false
  | some c => if isAscii then CharSet.asciiWord.contains c else CharSet.word.contains c

/-- Whether a condition holds between two characters, either of which may be missing. -/
def Look.holds (before after : Option Char) : Look → Bool
  | textStart => before.isNone
  | textEnd => after.isNone
  | lineStart false => before.isNone || before == some '\n'
  | lineStart true =>
    before.isNone || before == some '\n' || (before == some '\r' && after != some '\n')
  | lineEnd false => after.isNone || after == some '\n'
  | lineEnd true =>
    after.isNone || after == some '\r' || (after == some '\n' && before != some '\r')
  | boundary a => isWordBeside a before != isWordBeside a after
  | noBoundary a => isWordBeside a before == isWordBeside a after
  | wordStart a => !isWordBeside a before && isWordBeside a after
  | wordEnd a => isWordBeside a before && !isWordBeside a after
  | wordStartHalf a => !isWordBeside a before
  | wordEndHalf a => !isWordBeside a after

def before? (text : Array Char) : Nat → Option Char
  | 0 => none
  | i + 1 => text[i]?

def merged (a b : List Nat) : List Nat := a ++ b.filter fun i => !a.contains i

/-- The places that some rounds of a step reach, counting every round. -/
def rounds (step : List Nat → List Nat) : Nat → List Nat → List Nat
  | 0, places => places
  | n + 1, places => merged places (rounds step n (step places))

def times (step : List Nat → List Nat) : Nat → List Nat → List Nat
  | 0, places => places
  | n + 1, places => times step n (step places)

/-- The places where pieces end that start at some places. More rounds than the text has characters
reach nothing new. -/
def Node.ends (text : Array Char) : Node → List Nat → List Nat
  | empty, starts => starts
  | char s, starts =>
    starts.filterMap fun i =>
      match text[i]? with
      | some c => if s.contains c then some (i + 1) else none
      | none => none
  | look l, starts => starts.filter fun i => l.holds (before? text i) text[i]?
  | concat a b, starts => b.ends text (a.ends text starts)
  | alternate a b, starts => merged (a.ends text starts) (b.ends text starts)
  | capture node, starts => node.ends text starts
  | repeated node least most, starts =>
    let bound := text.size + 1
    let more := min bound ((most.map (· - least)).getD bound)
    rounds (node.ends text) more (times (node.ends text) (min bound least) starts)

def Node.matchesIn (node : Node) (text : String) : Bool :=
  let chars := text.toList.toArray
  !(node.ends chars (List.range (chars.size + 1))).isEmpty

end Pattern

structure Pattern where
  text : String
  node : Pattern.Node
  deriving DecidableEq, Repr, Inhabited

def Pattern.matchesIn (p : Pattern) (text : String) : Bool := p.node.matchesIn text

end AttributeSchema
