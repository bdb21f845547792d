import AttributeSchema.Text.Blank
import AttributeSchema.Text.NamedSet
/-!
# Sets of characters

The sets that a pattern names: single characters, ranges, the classes of digits, blanks and characters
of words, the sets that properties of characters name, and what is combined from them.
-/

namespace AttributeSchema.Pattern

inductive CharSet
  | none
  | single (c : Char)
  | range (first last : Char)
  | digit
  | blank
  | word
  | listed (set : Text.Ranges)
  | complement (s : CharSet)
  | union (a b : CharSet)
  | intersection (a b : CharSet)
  | difference (a b : CharSet)
  | exclusive (a b : CharSet)
  /-- The characters that are equal up to case to one of the set. -/
  | caseless (s : CharSet)
  /-- The same, where only the letters of ASCII have cases. -/
  | asciiCaseless (s : CharSet)
  deriving DecidableEq, Repr, Inhabited

namespace CharSet

def contains : CharSet → Char → Bool
  | none, _ => false
  | single d, c => c == d
  | range first last, c => first ≤ c && c ≤ last
  | digit, c => Text.isDecimalDigit c
  | blank, c => Text.isBlank c
  | word, c => Text.isWordChar c
  | listed set, c => set.contains c
  | complement s, c => !s.contains c
  | union a b, c => a.contains c || b.contains c
  | intersection a b, c => a.contains c && b.contains c
  | difference a b, c => a.contains c && !b.contains c
  | exclusive a b, c => a.contains c != b.contains c
  | caseless s, c => (Text.caseVariants c).any s.contains
  | asciiCaseless s, c => [c, c.toLower, c.toUpper].any s.contains

def wordRanges : Text.Ranges :=
  Text.Ranges.union
    (Text.Ranges.difference Text.identifierContinue Text.identifiersOnly)
    (Text.wordsOnly ++ [(0x30, 0x39), (0x41, 0x5A), (0x5F, 0x5F), (0x61, 0x7A)])

/-- The letters of ASCII that are equal up to case to a character of a set. -/
def asciiVariants (ranges : Text.Ranges) : Text.Ranges :=
  ((List.range 128).filter fun n =>
    let c := Char.ofNat n
    [c.toLower, c.toUpper].any ranges.contains).map fun n => (n, n)

def ranges : CharSet → Text.Ranges
  | none => []
  | single c => [(c.toNat, c.toNat)]
  | range first last => Text.Ranges.ordered [(first.toNat, last.toNat)]
  | digit => Text.decimalDigits
  | blank => Text.blanks
  | word => wordRanges
  | listed set => Text.Ranges.ordered set
  | complement s => s.ranges.complement
  | union a b => a.ranges.union b.ranges
  | intersection a b => a.ranges.intersection b.ranges
  | difference a b => a.ranges.difference b.ranges
  | exclusive a b => a.ranges.exclusive b.ranges
  | caseless s => s.ranges.caseClosure
  | asciiCaseless s => s.ranges.union (asciiVariants s.ranges)

def ofRanges (ranges : List (Char × Char)) : CharSet :=
  ranges.foldl (fun s r => s.union (range r.1 r.2)) none

/-- Everything but the ends of lines, which are line feeds, and carriage returns if they count. -/
def dot (hasCarriageReturns : Bool) : CharSet :=
  if hasCarriageReturns then complement (union (single '\n') (single '\r'))
  else complement (single '\n')

def all : CharSet := complement none

def asciiDigit : CharSet := range '0' '9'

def asciiBlank : CharSet := union (range '\t' '\r') (single ' ')

def asciiWord : CharSet := ofRanges [('0', '9'), ('A', 'Z'), ('a', 'z'), ('_', '_')]

def named : List (String × List (Char × Char)) :=
  [("alnum", [('0', '9'), ('A', 'Z'), ('a', 'z')]), ("alpha", [('A', 'Z'), ('a', 'z')]),
    ("ascii", [('\x00', '\x7f')]), ("blank", [('\t', '\t'), (' ', ' ')]),
    ("cntrl", [('\x00', '\x1f'), ('\x7f', '\x7f')]), ("digit", [('0', '9')]),
    ("graph", [('!', '~')]), ("lower", [('a', 'z')]), ("print", [(' ', '~')]),
    ("punct", [('!', '/'), (':', '@'), ('[', '\x60'), ('\x7b', '~')]),
    ("space", [('\t', '\r'), (' ', ' ')]), ("upper", [('A', 'Z')]),
    ("word", [('0', '9'), ('A', 'Z'), ('a', 'z'), ('_', '_')]),
    ("xdigit", [('0', '9'), ('A', 'F'), ('a', 'f')])]

end CharSet

end AttributeSchema.Pattern
