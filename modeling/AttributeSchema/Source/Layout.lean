/-!
# Layout of source text

A document is text with possible line breaks inside nested boxes. A box whose content, with what follows
it up to the next possible break, fits on the line is written on that line. Otherwise a consistent box
breaks at each of its breaks, and an inconsistent one only where the next piece would not fit. Widths
are counted in bytes.
-/

namespace AttributeSchema.Source.Layout

structure Break where
  blanks : Nat
  /-- What is added to the indentation of the next line. -/
  offset : Int
  /-- What is written before the end of the line. -/
  before : Option Char
  /-- What is written at the start of the next line. -/
  after : String
  /-- What is written if the line goes on. -/
  joined : Option Char
  /-- Whether the line always goes on. -/
  isFirm : Bool
  deriving Repr, Inhabited

inductive Doc
  | text (s : String)
  /-- Nothing, but too wide for any line. -/
  | overflow
  | brk (b : Break)
  | box (offset : Int) (isConsistent : Bool) (content : List Doc)
  deriving Repr, Inhabited

/-- A width that fits on no line. -/
def unbounded : Nat := 65535

def margin : Int := 89

/-- The least width that a line has at any indentation. -/
def leastSpace : Int := 60

mutual
def Doc.width : Doc → Nat
  | .text s => s.utf8ByteSize
  | .overflow => unbounded
  | .brk b => b.blanks
  | .box _ _ content => Doc.widths content

def Doc.widths : List Doc → Nat
  | [] => 0
  | d :: rest => d.width + Doc.widths rest
end

/-- The width of documents up to the first break among them, or up to the next break behind them, which
is `behind` away from their end. -/
def lead (behind : Nat) : List Doc → Nat
  | [] => behind
  | .brk _ :: _ => 0
  | d :: rest => d.width + lead behind rest

structure Page where
  out : String
  /-- The width left on the line. -/
  space : Int
  /-- Blanks that are written before the next text of the line. -/
  pending : Nat

def Page.flush (p : Page) : Page :=
  { p with out := p.out ++ String.ofList (List.replicate p.pending ' '), pending := 0 }

def Page.write (p : Page) (s : String) : Page :=
  let p := p.flush
  { p with out := p.out ++ s, space := p.space - s.utf8ByteSize }

inductive Mode
  | flat
  | broken (isConsistent : Bool)
  deriving DecidableEq, Repr

/-- Whether the line goes on at a break, of which `size` is the width up to the next one. -/
def goesOn (mode : Mode) (size : Nat) (p : Page) (b : Break) : Bool :=
  b.isFirm ||
    match mode with
    | .flat => true
    | .broken true => false
    | .broken false => (size : Int) ≤ p.space

def Page.break (mode : Mode) (indent : Int) (size : Nat) (p : Page) (b : Break) : Page :=
  if goesOn mode size p b then
    let p := { p with pending := p.pending + b.blanks, space := p.space - b.blanks }
    match b.joined with
    | some c => { p with out := p.out.push c, space := p.space - c.utf8Size }
    | none => p
  else
    let p :=
      match b.before with
      | some c => { p.flush with out := p.flush.out.push c }
      | none => p
    let column := indent + b.offset
    let p : Page := ⟨p.out.push '\n', max (margin - column) leastSpace, column.toNat⟩
    if b.after.isEmpty then p else p.write b.after

mutual
/-- Writes a document; `behind` is the width of what follows it up to the next break. -/
def Doc.lay (mode : Mode) (indent : Int) (behind : Nat) (p : Page) : Doc → Page
  | .text s => p.write s
  | .overflow => p.flush
  | .brk b => p.break mode indent (b.blanks + behind) b
  | .box offset isConsistent content =>
    if p.space < (Doc.widths content + behind : Nat) then
      Doc.layAll (.broken isConsistent) (indent + offset) behind p content
    else Doc.layAll .flat indent behind p content

def Doc.layAll (mode : Mode) (indent : Int) (behind : Nat) (p : Page) : List Doc → Page
  | [] => p
  | d :: rest => Doc.layAll mode indent behind (d.lay mode indent (lead behind rest) p) rest
end

def render (docs : List Doc) : String :=
  (Doc.layAll (.broken false) 0 0 ⟨"", margin, 0⟩ docs).out

/-! ### Building documents -/

def step : Int := 4

def word (s : String) : Doc := .text s

def blank (n : Nat) (offset : Int) : Doc := .brk ⟨n, offset, none, "", none, false⟩

def zero : Doc := blank 0 0

def space : Doc := blank 1 0

/-- A break at which every line ends. -/
def hard : Doc := blank unbounded 0

/-- A break at which no line ends. -/
def firm : Doc := .brk ⟨0, 0, none, "", none, true⟩

/-- The break after the last of some items, with a comma if the line ends. -/
def lastComma (blanks : Nat) (offset : Int) : Doc := .brk ⟨blanks, offset, some ',', "", none, false⟩

/-- A box that breaks at each of its breaks, or at none. -/
def cbox (offset : Int) (content : List Doc) : Doc := .box offset true content

def ibox (offset : Int) (content : List Doc) : Doc := .box offset false content

/-- Moves the line behind the last break back by one step. -/
def outdentLast (docs : List Doc) : List Doc :=
  match docs.getLast? with
  | some (.brk b) => docs.dropLast ++ [.brk { b with offset := b.offset - step }]
  | _ => docs

/-- Items with a comma and a break after each but the last, and a closing break after that one. -/
def separated (last : Doc) : List (List Doc) → List Doc
  | [] => []
  | [item] => item ++ [last]
  | item :: rest => item ++ word "," :: space :: separated last rest

/-- Items with a comma and a break after each but the last. -/
def commaSeparated : List (List Doc) → List Doc
  | [] => []
  | [item] => item
  | item :: rest => item ++ word "," :: space :: commaSeparated rest

/-- Items in a box between brackets, with a break of the given kind behind the last one. -/
def enclosedWith (last : Doc) (opening closing : String) : List (List Doc) → List Doc
  | [] => [word opening, word closing]
  | item :: rest =>
    [word opening, cbox step (outdentLast (zero :: separated last (item :: rest))), word closing]

/-- Items in a box between brackets: all on one line, or each on its own with a comma at its end. -/
def enclosed (opening closing : String) (items : List (List Doc)) : List Doc :=
  enclosedWith (lastComma 0 0) opening closing items

end AttributeSchema.Source.Layout
