import AttributeSchema.Pattern.Basic
import AttributeSchema.Text.Utf8
/-!
# Sizes of automata

Two automata run a pattern over the bytes of a text, one from its start and one from its end. They copy a
repeated part as often as it has to occur, so a short pattern may have large ones. A pattern is refused
if one of its automata takes more memory than it may.
-/

namespace AttributeSchema.Pattern

/-! ### Simplified patterns -/

inductive Form
  | empty
  /-- Bytes one after the other, at least one. -/
  | bytes (content : List UInt8)
  /-- A set of characters that is no single one. -/
  | set (ranges : Text.Ranges)
  | look (l : Look)
  | repeated (form : Form) (least : Nat) (most : Option Nat)
  | capture (form : Form)
  | sequence (parts : List Form)
  | choice (parts : List Form)
  deriving Inhabited

/-- The fewest and the most bytes that something describes; the most may be unbounded. -/
structure Extent where
  fewest : Nat
  most : Option Nat
  deriving DecidableEq, Repr, Inhabited

namespace Form

def byteCount (n : Nat) : Nat :=
  if n < 0x80 then 1 else if n < 0x800 then 2 else if n < 0x10000 then 3 else 4

mutual
/-- The extent of what a form describes; a form that describes nothing has none. -/
def extent? : Form → Option Extent
  | empty => some ⟨0, some 0⟩
  | bytes content => some ⟨content.length, some content.length⟩
  | set ranges =>
    match ranges.head?, ranges.getLast? with
    | some first, some last => some ⟨byteCount first.1, some (byteCount last.2)⟩
    | _, _ => none
  | look _ => some ⟨0, some 0⟩
  | repeated form least most =>
    match form.extent? with
    | none => if least = 0 then some ⟨0, none⟩ else none
    | some e =>
      some ⟨e.fewest * least, e.most.bind fun n => most.map (n * ·)⟩
  | capture form => form.extent?
  | sequence parts => sequenceExtent? parts
  | choice parts => choiceExtent? parts

def sequenceExtent? : List Form → Option Extent
  | [] => some ⟨0, some 0⟩
  | f :: rest =>
    match f.extent?, sequenceExtent? rest with
    | some a, some b =>
      some ⟨a.fewest + b.fewest, a.most.bind fun n => b.most.map (n + ·)⟩
    | _, _ => none

def choiceExtent? : List Form → Option Extent
  | [] => none
  | f :: rest =>
    match f.extent?, choiceExtent? rest with
    | some a, some b =>
      some ⟨min a.fewest b.fewest, a.most.bind fun n => b.most.map (max n ·)⟩
    | some a, none => some a
    | none, other => other
end

mutual
/-- Whether two forms are the same, apart from groups that count, no two of which are the same. -/
def isSame : Form → Form → Bool
  | empty, empty => true
  | bytes a, bytes b => a == b
  | set a, set b => a == b
  | look a, look b => a == b
  | repeated a least most, repeated b least' most' =>
    least == least' && most == most' && isSame a b
  | sequence a, sequence b => areSame a b
  | choice a, choice b => areSame a b
  | _, _ => false

def areSame : List Form → List Form → Bool
  | [], [] => true
  | a :: rest, b :: rest' => isSame a b && areSame rest rest'
  | _, _ => false
end

def ofRanges : Text.Ranges → Form
  | [(a, b)] => if a = b then .bytes (Text.Utf8.encodeChar (Char.ofNat a)) else .set [(a, b)]
  | ranges => .set ranges

/-- Adds a part in front of others; bytes next to bytes are joined. -/
def prepend : Form → List Form → List Form
  | .empty, rest => rest
  | .bytes a, .bytes b :: rest => .bytes (a ++ b) :: rest
  | form, rest => form :: rest

def parts : Form → List Form
  | .sequence parts => parts
  | form => [form]

def ofSequence (forms : List Form) : Form :=
  match (forms.flatMap parts).foldr prepend [] with
  | [] => .empty
  | [form] => form
  | several => .sequence several

def single? : Form → Option Nat
  | .bytes content =>
    match Text.Utf8.decode? content with
    | some [c] => some c.toNat
    | _ => none
  | _ => none

def ranges? : Form → Option Text.Ranges
  | .set ranges => some ranges
  | _ => none

/-- How many of their first parts two sequences share. -/
def commonLength : List Form → List Form → Nat
  | a :: rest, b :: rest' => if a.isSame b then commonLength rest rest' + 1 else 0
  | _, _ => 0

def sequenceParts? : Form → Option (List Form)
  | .sequence parts => some parts
  | _ => none

def options : Form → List Form
  | .choice parts => parts
  | form => [form]

/-- One of some forms, where single characters or sets of them become one set. -/
def ofOptions (forms : List Form) : Form :=
  match forms with
  | [form] => form
  | forms =>
    match forms.mapM single? with
    | some chars => ofRanges (Text.Ranges.ordered (chars.map fun n => (n, n)))
    | none =>
      match forms.mapM ranges? with
      | some sets => ofRanges (Text.Ranges.ordered sets.flatten)
      | none => .choice forms

/-- A choice of forms; what all of them start with comes before it. -/
def ofChoice (forms : List Form) : Form :=
  let forms := forms.flatMap options
  match ofOptions forms, forms.mapM sequenceParts? with
  | .choice _, some (first :: more) =>
    let shared := more.foldl (fun n other => min n (commonLength first other)) first.length
    if shared = 0 then .choice forms
    else
      let rests := (first :: more).map fun parts => ofSequence (parts.drop shared)
      ofSequence (first.take shared ++ [ofOptions (rests.flatMap options)])
  | form, _ => form

/-- A repeated form. What describes the empty text only is repeated once at most. -/
def ofRepeated (form : Form) (least : Nat) (most : Option Nat) : Form :=
  let isWeightless := form.extent?.any fun e => e.most == some 0
  let least := if isWeightless then min least 1 else least
  let most := if isWeightless then some (min (most.getD 1) 1) else most
  if most == some 0 then .empty
  else if least == 1 && most == some 1 then form
  else .repeated form least most

def withOptions : Node → Form × List Form
  | .empty => (.empty, [.empty])
  | .char s => let form := ofRanges s.ranges; (form, [form])
  | .look l => (.look l, [.look l])
  | .concat a b =>
    let form := ofSequence [(withOptions a).1, (withOptions b).1]
    (form, [form])
  | .alternate a b =>
    let forms := (withOptions a).2 ++ [(withOptions b).1]
    (ofChoice forms, forms)
  | .capture node => let form := .capture (withOptions node).1; (form, [form])
  | .repeated node least most =>
    let form := ofRepeated (withOptions node).1 least most
    (form, [form])

def ofNode (node : Node) : Form := (withOptions node).1

end Form

/-! ### Bytes of characters -/

abbrev ByteRange := Nat × Nat

def encoded (n : Nat) : List Nat := (Text.Utf8.encodeChar (Char.ofNat n)).map UInt8.toNat

/-- The last code point of the first part of a range, where its parts do not have the same bytes at the
same places. -/
def cut? (first last : Nat) : Option Nat :=
  match [0x7F, 0x7FF, 0xD7FF, 0xFFFF].find? fun n => first ≤ n && n < last with
  | some n => some n
  | none =>
    if last < 0x80 then none
    else
      [0x40, 0x1000, 0x40000].findSome? fun size =>
        if first / size == last / size then none
        else if first % size != 0 then some (first - first % size + size - 1)
        else if last % size != size - 1 then some (last - last % size - 1)
        else none

/-- The sequences of byte ranges that encode a range of code points, which is cut at most `fuel` times
one inside the other. -/
def byteSequences : Nat → Nat → Nat → List (List ByteRange)
  | 0, _, _ => []
  | fuel + 1, first, last =>
    if last < first then []
    else
      match cut? first last with
      | some n => byteSequences fuel first n ++ byteSequences fuel (n + 1) last
      | none => [(encoded first).zip (encoded last)]

def sequencesOf (ranges : Text.Ranges) : List (List ByteRange) :=
  (ranges.flatMap Text.Ranges.withoutSurrogates).flatMap fun r => byteSequences 64 r.1 r.2

/-- Sequences behind their first ranges, with those together that follow each other and start alike. -/
def byFirst (sequences : List (List ByteRange)) : List (ByteRange × List (List ByteRange)) :=
  (sequences.splitBy fun a b => a.head? == b.head?).filterMap fun part =>
    match part with
    | (first :: rest) :: more => some (first, rest :: more.map List.tail)
    | _ => none

/-- The ways out of a state: ranges of bytes, each with the number of the next state. -/
abbrev Ways := List (ByteRange × Nat)

/-- The number of the state from which some sequences lead to the end, among the states that are known so
far; the end has the number 0. States with the same ways are one. -/
def stateOf : Nat → List (List ByteRange) → List Ways → Nat × List Ways
  | 0, _, known => (0, known)
  | fuel + 1, sequences, known =>
    if sequences.all List.isEmpty then (0, known)
    else
      let (ways, known) := (byFirst sequences).foldl (fun (ways, known) (first, rests) =>
        let (n, known) := stateOf fuel rests known
        (ways ++ [(first, n)], known)) (([] : Ways), known)
      match known.findIdx? (· == ways) with
      | some i => (i + 1, known)
      | none => (known.length + 1, known ++ [ways])

/-- How many states a tree of sequences has where only common starts are shared. -/
def treeSize : Nat → List (List ByteRange) → Nat
  | 0, _ => 0
  | fuel + 1, sequences =>
    (byFirst sequences).foldl (fun n (_, rests) => n + 1 + treeSize fuel rests) 0

/-! ### Memory -/

/-- Whether an automaton reads a text from its start or from its end. -/
inductive Direction
  | forwards
  | backwards
  deriving DecidableEq, Repr, Inhabited

def stateBytes : Nat := 32

def waysBytes (count : Nat) : Nat := stateBytes + 8 * count

def branchBytes (count : Nat) : Nat := stateBytes + 4 * count

/-- The bytes for a set of characters and the state behind it. Forwards, states are shared where they
lead to the end in the same ways, and backwards where they are reached in the same way. -/
def setBytes (direction : Direction) (ranges : Text.Ranges) : Nat :=
  let sequences := sequencesOf ranges
  if sequences.all (·.length == 1) then stateBytes + waysBytes sequences.length
  else
    match direction with
    | .forwards =>
      (stateOf 5 sequences []).2.foldl (fun n ways => n + waysBytes ways.length) stateBytes
    | .backwards => stateBytes + branchBytes sequences.length + stateBytes * treeSize 5 sequences

def splitAtEmpty : List (List UInt8) → List (List (List UInt8))
  | [] => [[]]
  | [] :: rest => [] :: splitAtEmpty rest
  | text :: rest =>
    match splitAtEmpty rest with
    | [] => [[text]]
    | part :: more => (text :: part) :: more

/-- Texts behind their first bytes, with those together that start alike. -/
def byFirstByte (texts : List (List UInt8)) : List (List (List UInt8)) :=
  (texts.filterMap List.head?).eraseDups.map fun b =>
    texts.filterMap fun text => if text.head? == some b then some text.tail else none

/-- The bytes for the inner states of a tree of texts, of which `fuel` bytes at most are read. -/
def treeBytes : Nat → List (List UInt8) → Nat
  | 0, _ => 0
  | fuel + 1, texts =>
    if texts.all List.isEmpty then 0
    else
      let parts := splitAtEmpty texts
      let filled := parts.filter fun part => !part.isEmpty
      filled.foldl (fun n part =>
        let groups := byFirstByte part
        let ways := if groups.length = 1 then stateBytes else waysBytes groups.length
        groups.foldl (fun n texts => n + treeBytes fuel texts) (n + ways))
        (branchBytes (filled.length + parts.length - 1))

def Form.content? : Form → Option (List UInt8)
  | .bytes content => some content
  | _ => none

def textsBytes (direction : Direction) (texts : List (List UInt8)) : Nat :=
  let texts := if direction = .forwards then texts else texts.map List.reverse
  stateBytes + treeBytes (texts.foldl (fun n text => max n (text.length + 1)) 1) texts

/-- The bytes for some rounds of a part that takes `inner` bytes. -/
def exactBytes (inner count : Nat) : Nat := if count = 0 then stateBytes else inner * count

mutual
def Form.memory (direction : Direction) : Form → Nat
  | .empty => stateBytes
  | .bytes content => stateBytes * content.length
  | .set ranges => setBytes direction ranges
  | .look _ => stateBytes
  | .repeated form least most =>
    let inner := form.memory direction
    match most with
    | none =>
      if least = 0 then
        if form.extent?.any fun e => 0 < e.fewest then inner + branchBytes 2
        else inner + 2 * branchBytes 2 + stateBytes
      else inner * least + branchBytes 2
    | some most =>
      if least = most then exactBytes inner least
      else if least = 0 ∧ most = 1 then inner + branchBytes 2 + stateBytes
      else
        exactBytes inner least + stateBytes + (most - least) * (inner + branchBytes 2)
  | .capture form =>
    form.memory direction + (if direction = .forwards then 2 * stateBytes else 0)
  | .sequence parts => Form.memories direction parts
  | .choice parts =>
    match parts.mapM Form.content? with
    | some texts => textsBytes direction texts
    | none => branchBytes parts.length + stateBytes + Form.memories direction parts

def Form.memories (direction : Direction) : List Form → Nat
  | [] => 0
  | form :: rest => form.memory direction + Form.memories direction rest
end

/-- The bytes for the states that skip what stands before a match. -/
def skipBytes : Nat := branchBytes 2 + stateBytes + waysBytes 1

/-- The bytes for a whole automaton, the last state of which tells of a match. -/
def Form.automatonBytes (direction : Direction) (form : Form) : Nat :=
  skipBytes + Form.memory direction (.capture form) + stateBytes

def memoryLimit : Nat := 10_485_760

/-- Whether both automata of a pattern take no more memory than they may. -/
def Node.isSmall (node : Node) : Bool :=
  let form := Form.ofNode node
  [Direction.forwards, .backwards].all fun d => form.automatonBytes d ≤ memoryLimit

end AttributeSchema.Pattern
