import AttributeSchema.Pattern.Automaton
/-!
# Reading patterns

The text of a pattern is read from left to right. Flags change how what follows in the same group is
read: whether cases differ, what the ends of lines are, whether blanks are left out, and whether classes
contain characters beyond ASCII. What is read comes with how deep its parts nest, for which there is a
limit.
-/

namespace AttributeSchema.Pattern

structure Flags where
  isCaseless : Bool
  isMultiline : Bool
  /-- Whether a dot stands for line ends too. -/
  isDotAll : Bool
  /-- Whether carriage returns end lines. -/
  hasCarriageReturns : Bool
  /-- Whether only characters of ASCII are in classes. -/
  isAscii : Bool
  /-- Whether blanks and comments are left out. -/
  isVerbose : Bool
  deriving DecidableEq, Repr, Inhabited

def Flags.initial : Flags := ⟨false, false, false, false, false, false⟩

def Flags.set (f : Flags) (letter : Char) (value : Bool) : Flags :=
  match letter with
  | 'i' => { f with isCaseless := value }
  | 'm' => { f with isMultiline := value }
  | 's' => { f with isDotAll := value }
  | 'R' => { f with hasCarriageReturns := value }
  | 'u' => { f with isAscii := !value }
  | 'x' => { f with isVerbose := value }
  | _ => f

def flagLetters : List Char := ['i', 'm', 's', 'U', 'u', 'R', 'x']

def skipComment : List Char → List Char
  | [] => []
  | c :: rest => if c = '\n' then rest else skipComment rest

def skipBlanks : Nat → List Char → List Char
  | 0, input => input
  | _ + 1, [] => []
  | fuel + 1, c :: rest =>
    if Text.isBlank c then skipBlanks fuel rest
    else if c = '#' then skipBlanks fuel (skipComment rest)
    else c :: rest

def Flags.skip (f : Flags) (input : List Char) : List Char :=
  if f.isVerbose then skipBlanks input.length input else input

/-! ### Escapes -/

inductive Primitive
  | literal (c : Char)
  | set (s : CharSet)
  | look (l : Look)

def metaChars : List Char :=
  ['\\', '.', '+', '*', '?', '(', ')', '|', '[', ']', '\x7b', '\x7d', '^', '$', '#', '&', '-', '~']

def isEscapable (c : Char) : Bool :=
  metaChars.contains c || (c.toNat < 128 && !c.isAlphanum && c != '<' && c != '>')

def hexValue? (c : Char) : Option Nat :=
  if '0' ≤ c && c ≤ '9' then some (c.toNat - 48)
  else if 'a' ≤ c && c ≤ 'f' then some (c.toNat - 87)
  else if 'A' ≤ c && c ≤ 'F' then some (c.toNat - 55)
  else none

def charAt? (n : Nat) : Option Char :=
  if h : n.isValidChar then some (Char.ofNatAux n h) else none

/-- A number of hexadecimal digits, with blanks between them where those are left out. -/
def hexDigits (f : Flags) (value : Nat) : Nat → List Char → Option (Nat × List Char)
  | 0, input => some (value, input)
  | _ + 1, [] => none
  | n + 1, c :: rest => do hexDigits f (value * 16 + (← hexValue? c)) n (f.skip rest)

def hexUntilBrace (f : Flags) (value : Option Nat) : Nat → List Char → Option (Nat × List Char)
  | 0, _ => none
  | fuel + 1, input =>
    match f.skip input with
    | [] => none
    | '\x7d' :: rest => value.map (·, f.skip rest)
    | c :: rest => do hexUntilBrace f (some (value.getD 0 * 16 + (← hexValue? c))) fuel rest

/-- The character that a hexadecimal escape stands for; in classes of ASCII two digits stand for a byte,
which is no character by itself if it is large. -/
def hexEscape (f : Flags) (digits : Nat) (input : List Char) : Option (Primitive × List Char) := do
  let (n, rest) ←
    match f.skip input with
    | '\x7b' :: rest => hexUntilBrace f none (rest.length + 1) rest
    | rest => do
      let (n, rest) ← hexDigits f 0 digits rest
      if f.isAscii && digits == 2 && 128 ≤ n then none else some (n, rest)
  some (.literal (← charAt? n), rest)

def letterClass (f : Flags) : Char → CharSet
  | 'd' => if f.isAscii then .asciiDigit else .digit
  | 's' => if f.isAscii then .asciiBlank else .blank
  | _ => if f.isAscii then .asciiWord else .word

/-- What is not in a set; in classes of ASCII that would be bytes that are no characters. -/
def complement? (f : Flags) (s : CharSet) : Option CharSet :=
  if f.isAscii then none else some (.complement s)

def foldedSet (f : Flags) (s : CharSet) : CharSet :=
  if !f.isCaseless then s else if f.isAscii then .asciiCaseless s else .caseless s

def closedSet? (f : Flags) (isNegated : Bool) (s : CharSet) : Option CharSet :=
  if isNegated then complement? f (foldedSet f s) else some (foldedSet f s)

def namedBoundary (f : Flags) : List Char → Option Look
  | ['s', 't', 'a', 'r', 't'] => some (.wordStart f.isAscii)
  | ['e', 'n', 'd'] => some (.wordEnd f.isAscii)
  | ['s', 't', 'a', 'r', 't', '-', 'h', 'a', 'l', 'f'] => some (.wordStartHalf f.isAscii)
  | ['e', 'n', 'd', '-', 'h', 'a', 'l', 'f'] => some (.wordEndHalf f.isAscii)
  | _ => none

def isBoundaryLetter (c : Char) : Bool := c.isAlpha || c == '-'

def boundaryName (f : Flags) : Nat → List Char → List Char × List Char
  | 0, input => ([], input)
  | _ + 1, [] => ([], [])
  | fuel + 1, c :: rest =>
    if isBoundaryLetter c then
      let (name, rest) := boundaryName f fuel (f.skip rest)
      (c :: name, rest)
    else ([], c :: rest)

/-- A word boundary; a name of a special one may follow between braces, but a number of repetitions may
follow as well. -/
def boundary (f : Flags) (input : List Char) : Option (Primitive × List Char) :=
  match input with
  | '\x7b' :: rest =>
    match f.skip rest with
    | [] => none
    | c :: more =>
      if !isBoundaryLetter c then some (.look (.boundary f.isAscii), input)
      else
        match boundaryName f (more.length + 1) (c :: more) with
        | (name, '\x7d' :: rest) => (namedBoundary f name).map (.look ·, rest)
        | _ => none
  | _ => some (.look (.boundary f.isAscii), input)

/-- What stands between braces, without blanks where those are left out. -/
def untilBrace (f : Flags) : Nat → List Char → Option (List Char × List Char)
  | 0, _ => none
  | fuel + 1, input =>
    match f.skip input with
    | [] => none
    | '\x7d' :: rest => some ([], rest)
    | c :: rest => do
      let (text, rest) ← untilBrace f fuel rest
      some (c :: text, rest)

def splitAt (separator : List Char) : List Char → Option (List Char × List Char)
  | [] => none
  | c :: rest =>
    if separator.isPrefixOf (c :: rest) then some ([], (c :: rest).drop separator.length)
    else (splitAt separator rest).map fun (before, behind) => (c :: before, behind)

/-- The set of a name, which is that of a property and one of its values if a sign stands between them.
The sign of inequality does not negate. -/
def setBetweenBraces? (name : List Char) : Option Text.Ranges :=
  match [['!', '='], [':'], ['=']].findSome? fun sign => splitAt sign name with
  | some (property, value) => Text.setWithValue? property value
  | none => Text.setNamed? name

/-- The set of a name that is a single letter or stands between braces. -/
def propertySet? (f : Flags) (input : List Char) : Option (Text.Ranges × List Char) :=
  match f.skip input with
  | [] => none
  | '\\' :: _ => none
  | '\x7b' :: rest => do
    let (name, rest) ← untilBrace f (rest.length + 1) rest
    some (← setBetweenBraces? name, rest)
  | c :: rest => do some (← Text.setNamed? [c], rest)

/-- A set of a name, or what is not in it; classes of ASCII have no such names. -/
def property (f : Flags) (isNegated : Bool) (input : List Char) :
    Option (Primitive × List Char) := do
  if f.isAscii then none
  else
    let (set, rest) ← propertySet? f input
    some (.set (← closedSet? f isNegated (.listed set)), rest)

def escape (f : Flags) : List Char → Option (Primitive × List Char)
  | [] => none
  | c :: rest =>
    match c with
    | 'x' => hexEscape f 2 rest
    | 'u' => hexEscape f 4 rest
    | 'U' => hexEscape f 8 rest
    | 'd' => some (.set (letterClass f 'd'), rest)
    | 's' => some (.set (letterClass f 's'), rest)
    | 'w' => some (.set (letterClass f 'w'), rest)
    | 'D' => (complement? f (letterClass f 'd')).map (.set ·, rest)
    | 'S' => (complement? f (letterClass f 's')).map (.set ·, rest)
    | 'W' => (complement? f (letterClass f 'w')).map (.set ·, rest)
    | 'p' => property f false rest
    | 'P' => property f true rest
    | 'a' => some (.literal '\x07', rest)
    | 'f' => some (.literal '\x0c', rest)
    | 't' => some (.literal '\t', rest)
    | 'n' => some (.literal '\n', rest)
    | 'r' => some (.literal '\r', rest)
    | 'v' => some (.literal '\x0b', rest)
    | 'A' => some (.look .textStart, rest)
    | 'z' => some (.look .textEnd, rest)
    | 'b' => boundary f rest
    | 'B' => some (.look (.noBoundary f.isAscii), rest)
    | '<' => some (.look (.wordStart f.isAscii), rest)
    | '>' => some (.look (.wordEnd f.isAscii), rest)
    | _ => if isEscapable c then some (.literal c, rest) else none

/-! ### Classes between brackets -/

/-- A character of a class; classes of ASCII contain no other one. -/
def classChar? (f : Flags) (c : Char) : Option Char :=
  if f.isAscii && 128 ≤ c.toNat then none else some c

def classItem (f : Flags) : List Char → Option (Primitive × List Char)
  | [] => none
  | '\\' :: rest => escape f rest
  | c :: rest => some (.literal c, rest)

def itemSet? (f : Flags) : Primitive → Option CharSet
  | .literal c => (classChar? f c).map .single
  | .set s => some s
  | .look _ => none

/-- Whether a hyphen before these characters stands for itself or for a difference. -/
def endsItem : List Char → Bool
  | [] => false
  | c :: _ => c == ']' || c == '-'

def classRange (f : Flags) (input : List Char) : Option (CharSet × List Char) := do
  let (first, rest) ← classItem f input
  match f.skip rest with
  | [] => none
  | '-' :: more =>
    if endsItem (f.skip more) then some (← itemSet? f first, '-' :: more)
    else do
      let (last, rest) ← classItem f (f.skip more)
      match first, last with
      | .literal a, .literal b =>
        if a ≤ b then some (.range (← classChar? f a) (← classChar? f b), rest) else none
      | _, _ => none
  | rest => some (← itemSet? f first, rest)

def namedSet (f : Flags) : List Char → Option (Option CharSet × List Char)
  | ':' :: rest =>
    let (isNegated, rest) :=
      match rest with
      | '^' :: rest => (true, rest)
      | rest => (false, rest)
    let name := rest.takeWhile (· != ':')
    match rest.dropWhile (· != ':') with
    | ':' :: ']' :: rest => do
      let ranges ← CharSet.named.lookup (String.ofList name)
      some (closedSet? f isNegated (.ofRanges ranges), rest)
    | _ => none
  | _ => none

structure Nested where
  set : CharSet
  depth : Nat

structure Items where
  set : CharSet
  count : Nat
  /-- How deep the deepest item nests. -/
  depth : Nat

def Items.none : Items := ⟨.none, 0, 0⟩

def Items.add (items : Items) (item : Nested) : Items :=
  ⟨items.set.union item.set, items.count + 1, max items.depth item.depth⟩

/-- The set of some items; several ones nest in their list. -/
def Items.nested (items : Items) : Nested :=
  ⟨items.set, if items.count ≤ 1 then items.depth else items.depth + 1⟩

abbrev Operation := CharSet → CharSet → CharSet

def combined (f : Flags) : Option (Nested × Operation) → Items → Nested
  | none, items => items.nested
  | some (left, operation), items =>
    let right := items.nested
    ⟨operation (foldedSet f left.set) (foldedSet f right.set), max left.depth right.depth + 1⟩

def leadingHyphens (f : Flags) (items : Items) : Nat → List Char → Items × List Char
  | 0, input => (items, input)
  | fuel + 1, input =>
    match input with
    | '-' :: rest => leadingHyphens f (items.add ⟨.single '-', 0⟩) fuel (f.skip rest)
    | _ => (items, input)

mutual

def bracketed (f : Flags) : Nat → List Char → Option (Nested × List Char)
  | 0, _ => none
  | fuel + 1, input => do
    let input := f.skip input
    let (isNegated, input) :=
      match input with
      | '^' :: rest => (true, f.skip rest)
      | rest => (false, rest)
    let (start, input) :=
      match leadingHyphens f .none input.length input with
      | (⟨_, 0, _⟩, ']' :: rest) => (Items.none.add ⟨.single ']', 0⟩, f.skip rest)
      | other => other
    let (inner, rest) ← classBody f none start fuel input
    some (⟨← closedSet? f isNegated inner.set, inner.depth + 1⟩, rest)

/-- The rest of a class; `left` is what stood before the last operation, and `items` what has been read
since. -/
def classBody (f : Flags) (left : Option (Nested × Operation)) (items : Items) :
    Nat → List Char → Option (Nested × List Char)
  | 0, _ => none
  | fuel + 1, input =>
    match f.skip input with
    | [] => none
    | '[' :: rest =>
      match namedSet f rest with
      | some (item, rest) => do classBody f left (items.add ⟨← item, 0⟩) fuel rest
      | none => do
        let (item, rest) ← bracketed f fuel rest
        classBody f left (items.add item) fuel rest
    | ']' :: rest => some (combined f left items, rest)
    | '&' :: '&' :: rest => classBody f (some (combined f left items, .intersection)) .none fuel rest
    | '-' :: '-' :: rest => classBody f (some (combined f left items, .difference)) .none fuel rest
    | '~' :: '~' :: rest => classBody f (some (combined f left items, .exclusive)) .none fuel rest
    | input => do
      let (item, rest) ← classRange f input
      classBody f left (items.add ⟨item, 0⟩) fuel rest

end

/-! ### Groups and repetitions -/

def flagList (seen : List Char) (f : Flags) : List Char → Option (List Char × Flags × Char × List Char)
  | [] => none
  | c :: rest =>
    if c = ':' || c = ')' then
      if seen.head? = some '-' then none else some (seen, f, c, rest)
    else if seen.contains c then none
    else if c = '-' then flagList (c :: seen) f rest
    else if flagLetters.contains c then
      flagList (c :: seen) (f.set c (!seen.contains '-')) rest
    else none

def startsGroupName (c : Char) : Bool :=
  c == '_' || (CharSet.word.contains c && !CharSet.digit.contains c)

def continuesGroupName (c : Char) : Bool :=
  CharSet.word.contains c || c == '.' || c == '[' || c == ']'

def groupName (input : List Char) : Option (List Char × List Char) :=
  let name := input.takeWhile (· != '>')
  match name, input.dropWhile (· != '>') with
  | c :: more, '>' :: rest =>
    if startsGroupName c && more.all continuesGroupName then some (name, rest) else none
  | _, _ => none

inductive Opening
  /-- A group that counts or does not, with the names of all groups so far. -/
  | group (isCapture : Bool) (f : Flags) (names : List (List Char))
  | flags (f : Flags)

def opening (f : Flags) (names : List (List Char)) (input : List Char) :
    Option (Opening × List Char) :=
  let named (rest : List Char) : Option (Opening × List Char) := do
    let (name, rest) ← groupName rest
    if names.contains name then none else some (.group true f (name :: names), rest)
  match f.skip input with
  | '?' :: '=' :: _ => none
  | '?' :: '!' :: _ => none
  | '?' :: '<' :: '=' :: _ => none
  | '?' :: '<' :: '!' :: _ => none
  | '?' :: 'P' :: '<' :: rest => named rest
  | '?' :: '<' :: rest => named rest
  | '?' :: rest => do
    let (seen, g, last, rest) ← flagList [] f rest
    if last = ':' then some (.group false g names, rest)
    else if seen.isEmpty then none
    else some (.flags g, rest)
  | rest => some (.group true f names, rest)

def countDigits (f : Flags) : Nat → List Char → List Char × List Char
  | 0, input => ([], input)
  | _ + 1, [] => ([], [])
  | fuel + 1, c :: rest =>
    if '0' ≤ c && c ≤ '9' then
      let (digits, rest) := countDigits f fuel (f.skip rest)
      (c :: digits, rest)
    else ([], c :: rest)

/-- A number of repetitions between blanks, of 32 bits at most. -/
def count (f : Flags) (input : List Char) : Option (Nat × List Char) :=
  let (digits, rest) := countDigits f (input.length + 1) (Text.trimStart input)
  let n := digits.foldl (fun n c => n * 10 + (c.toNat - 48)) 0
  if digits.isEmpty || 0x1_0000_0000 ≤ n then none else some (n, f.skip (Text.trimStart rest))

def bounds (f : Flags) (input : List Char) : Option (Nat × Option Nat × List Char) := do
  let (least, rest) ← count f (f.skip input)
  match rest with
  | '\x7d' :: rest => some (least, some least, f.skip rest)
  | ',' :: rest =>
    match f.skip rest with
    | '\x7d' :: rest => some (least, none, f.skip rest)
    | rest => do
      let (most, rest) ← count f rest
      match rest with
      | '\x7d' :: rest => if least ≤ most then some (least, some most, f.skip rest) else none
      | _ => none
  | _ => none

/-- Drops the mark of a repetition that prefers few rounds. -/
def skipLazy : List Char → List Char
  | '?' :: rest => rest
  | rest => rest

/-- An item of a sequence; flags are an item without a node. -/
structure Piece where
  node : Option Node
  /-- How deep the parts of the item nest. -/
  depth : Nat

def ofPieces (pieces : List Piece) : Node :=
  pieces.foldl (fun node p =>
    match p.node, node with
    | none, node => node
    | some n, .empty => n
    | some n, node => .concat n node) .empty

/-- How deep some items nest in what they are parts of; a single one is no part. -/
def depthOf (depths : List Nat) : Nat :=
  let deepest := depths.foldl max 0
  if depths.length ≤ 1 then deepest else deepest + 1

/-- Repeats the last of some pieces, which must not be flags. -/
def repeatLast (least : Nat) (most : Option Nat) : List Piece → Option (List Piece)
  | ⟨some node, depth⟩ :: pieces => some (⟨some (.repeated node least most), depth + 1⟩ :: pieces)
  | _ => none

def Primitive.node (f : Flags) : Primitive → Node
  | .literal c => .char (foldedSet f (.single c))
  | .set s => .char s
  | .look l => .look l

/-- What a dot stands for, unless that includes bytes that are no characters. -/
def dot? (f : Flags) : Option CharSet :=
  if f.isAscii then none
  else some (if f.isDotAll then .all else .dot f.hasCarriageReturns)

def startLook (f : Flags) : Look := if f.isMultiline then .lineStart f.hasCarriageReturns else .textStart

def endLook (f : Flags) : Look := if f.isMultiline then .lineEnd f.hasCarriageReturns else .textEnd

structure Alternatives where
  node : Node
  /-- How deep each of them nests. -/
  depths : List Nat

def withAlternative (before : Option Alternatives) (pieces : List Piece) : Alternatives :=
  let node := ofPieces pieces
  let depth := depthOf (pieces.map Piece.depth)
  match before with
  | none => ⟨node, [depth]⟩
  | some a => ⟨.alternate a.node node, depth :: a.depths⟩

structure Progress where
  node : Node
  /-- How deep its parts nest. -/
  depth : Nat
  names : List (List Char)
  rest : List Char

/-- Reads alternatives up to a closing parenthesis or the end; `pieces` are those of the alternative that
is being read, last one first, and `before` are the alternatives before it. -/
def alternatives (f : Flags) (names : List (List Char)) (before : Option Alternatives)
    (pieces : List Piece) : Nat → List Char → Option Progress
  | 0, _ => none
  | fuel + 1, input =>
    let whole (rest : List Char) : Progress :=
      let a := withAlternative before pieces
      ⟨a.node, depthOf a.depths, names, rest⟩
    let go (pieces : List Piece) (rest : List Char) :=
      alternatives f names before pieces fuel rest
    let add (node : Node) (rest : List Char) := go (⟨some node, 0⟩ :: pieces) rest
    match f.skip input with
    | [] => some (whole [])
    | ')' :: rest => some (whole (')' :: rest))
    | '|' :: rest => alternatives f names (some (withAlternative before pieces)) [] fuel rest
    | '(' :: rest => do
      match ← opening f names rest with
      | (.flags g, rest) => alternatives g names before (⟨none, 0⟩ :: pieces) fuel rest
      | (.group isCapture g names, rest) => do
        let inner ← alternatives g names none [] fuel rest
        let node := if isCapture then .capture inner.node else inner.node
        match inner.rest with
        | ')' :: rest =>
          alternatives f inner.names before (⟨some node, inner.depth + 1⟩ :: pieces) fuel rest
        | _ => none
    | '[' :: rest => do
      let (inner, rest) ← bracketed f (2 * rest.length + 2) rest
      go (⟨some (.char inner.set), inner.depth⟩ :: pieces) rest
    | '?' :: rest => do go (← repeatLast 0 (some 1) pieces) (skipLazy rest)
    | '*' :: rest => do go (← repeatLast 0 none pieces) (skipLazy rest)
    | '+' :: rest => do go (← repeatLast 1 none pieces) (skipLazy rest)
    | '\x7b' :: rest => do
      let (least, most, rest) ← bounds f rest
      go (← repeatLast least most pieces) (skipLazy rest)
    | '\\' :: rest => do
      let (p, rest) ← escape f rest
      add (p.node f) rest
    | '.' :: rest => do add (.char (← dot? f)) rest
    | '^' :: rest => add (.look (startLook f)) rest
    | '$' :: rest => add (.look (endLook f)) rest
    | c :: rest => add (Primitive.node f (.literal c)) rest

def deepest : Nat := 250

/-- What a pattern consists of, from its text. A pattern whose parts nest too deep or whose automata are
too large is none. -/
def Node.ofText? (text : String) : Option Node :=
  let input := text.toList
  match alternatives .initial [] none [] (2 * input.length + 2) input with
  | some ⟨node, depth, _, []⟩ => if depth ≤ deepest && node.isSmall then some node else none
  | _ => none

end AttributeSchema.Pattern

namespace AttributeSchema

def Pattern.ofText? (text : String) : Option Pattern :=
  (Pattern.Node.ofText? text).map fun node => ⟨text, node⟩

end AttributeSchema
