import AttributeSchema.Source.Token
/-!
# Reading tokens from the front

A reader takes some tokens from the front of its input, or refuses it. What it does next depends on the
next one, two or three token trees only, for which there are tests.
-/

namespace AttributeSchema.Source

abbrev Tokens := List Token

abbrev Reader := StateT Tokens Option

/-! ### Looking ahead -/

abbrev Test := Tokens → Bool

namespace Ahead

def keywords : List String :=
  ["_", "abstract", "as", "async", "await", "become", "box", "break", "const", "continue", "crate",
    "do", "dyn", "else", "enum", "extern", "false", "final", "fn", "for", "if", "impl", "in", "let",
    "loop", "macro", "match", "mod", "move", "mut", "override", "priv", "pub", "ref", "return",
    "Self", "self", "static", "struct", "super", "trait", "true", "try", "type", "typeof", "unsafe",
    "unsized", "use", "virtual", "where", "while", "yield"]

def isName (word : String) : Bool := !keywords.contains word

/-- The tokens behind the next tree; a lifetime counts as one tree. -/
def behind : Tokens → Tokens
  | .mark '\'' true :: .word _ :: rest => rest
  | _ :: rest => rest
  | [] => []

def second (t : Test) : Test := fun s => t (behind s)

def third (t : Test) : Test := second (second t)

def oneOf (tests : List Test) : Test := fun s => tests.any (· s)

def none (t : Test) : Test := fun s => !t s

def atEnd : Test := List.isEmpty

/-- Whether the next tokens are these punctuation characters, each joined to the next. -/
def isMark : List Char → Test
  | [c], .mark d _ :: _ => c == d && c != '\''
  | c :: more, .mark d joint :: rest => c == d && joint && isMark more rest
  | _, _ => false

/-- Whether a punctuation mark comes next. What follows a single character does not matter. -/
def mark (text : String) : Test := isMark text.toList

def word (text : String) : Test
  | .word w :: _ => w == text
  | _ => false

def wordOf (texts : List String) : Test
  | .word w :: _ => texts.contains w
  | _ => false

def name : Test
  | .word w :: _ => isName w
  | _ => false

def anyWord : Test
  | .word _ :: _ => true
  | _ => false

def lifetime : Test
  | .mark '\'' true :: .word _ :: _ => true
  | _ => false

def group (delimiter : Delimiter) : Test
  | .group d _ :: _ => d == delimiter
  | _ => false

def anyGroup : Test
  | .group _ _ :: _ => true
  | _ => false

/-- Whether a literal comes next; a minus sign may precede a number. -/
def literal : Test
  | .literal _ :: _ => true
  | .mark '-' _ :: .literal text :: _ => text.toList.head?.any Char.isDigit
  | .word w :: _ => w == "true" || w == "false"
  | _ => false

def text : Test
  | .literal l :: _ => l.startsWith "\"" || l.startsWith "r"
  | _ => false

end Ahead

namespace Reader

/-! ### Single tokens -/

def refuse {α : Type} : Reader α := fun _ => none

def next (t : Test) : Reader Bool := fun s => some (t s, s)

def takeIf (t : Test) (count : Nat) : Reader Tokens := fun s =>
  if t s then some (s.take count, s.drop count) else none

def mark (text : String) : Reader Tokens := takeIf (Ahead.mark text) text.length

def word (text : String) : Reader Tokens := takeIf (Ahead.word text) 1

def name : Reader Tokens := takeIf Ahead.name 1

def anyWord : Reader Tokens := takeIf Ahead.anyWord 1

def lifetime : Reader Tokens := takeIf Ahead.lifetime 2

def text : Reader Tokens := takeIf Ahead.text 1

def anyGroup : Reader Tokens := takeIf Ahead.anyGroup 1

def groupOf (delimiter : Delimiter) : Reader Tokens := takeIf (Ahead.group delimiter) 1

def nameText : Reader String := fun
  | .word w :: rest => if Ahead.isName w then some (w, rest) else none
  | _ => none

def anyWordText : Reader String := fun
  | .word w :: rest => some (w, rest)
  | _ => none

def lifetimeText : Reader String := fun
  | .mark '\'' true :: .word w :: rest => some ("'" ++ w, rest)
  | _ => none

/-- The text of a literal. A minus sign belongs to the number behind it. -/
def literalText : Reader String := fun
  | .literal text :: rest => some (text, rest)
  | .mark '-' _ :: .literal text :: rest =>
    if text.toList.head?.any Char.isDigit then some ("-" ++ text, rest) else none
  | .word w :: rest => if w == "true" || w == "false" then some (w, rest) else none
  | _ => none

/-- Whether a mark comes next, which is then read. -/
def hasMark (text : String) : Reader Bool := fun s =>
  if Ahead.mark text s then some (true, s.drop text.length) else some (false, s)

/-- Whether a word comes next, which is then read. -/
def hasWord (text : String) : Reader Bool := fun s =>
  if Ahead.word text s then some (true, s.drop 1) else some (false, s)

/-! ### Putting readers together -/

/-- What a reader gives for the whole content of the group that comes next. -/
def inside {α : Type} (delimiter : Delimiter) (r : Reader α) : Reader α := fun
  | .group d content :: rest =>
    if d = delimiter then
      match r content with
      | some (a, []) => some (a, rest)
      | _ => none
    else none
  | _ => none

/-- A group whose whole content a reader reads. -/
def group (delimiter : Delimiter) (r : Reader Tokens) : Reader Tokens := do
  return [.group delimiter (← inside delimiter r)]

def seq : List (Reader Tokens) → Reader Tokens
  | [] => return []
  | r :: more => do
    let first ← r
    let rest ← seq more
    return first ++ rest

def optional (t : Test) (r : Reader Tokens) : Reader Tokens := do
  if ← next t then r else return []

def maybeWord (text : String) : Reader Tokens := optional (Ahead.word text) (word text)

def maybeMark (text : String) : Reader Tokens := optional (Ahead.mark text) (mark text)

/-- The answer of a reader that refuses nothing: where it would refuse, nothing is read. -/
def orNothing {α : Type} (r : Reader α) : Reader (Option α) := fun s =>
  match r s with
  | some (a, rest) => some (some a, rest)
  | none => some (none, s)

def asRead {α : Type} (r : Reader α) : Reader Tokens := fun s =>
  (r s).map fun (_, rest) => (s.take (s.length - rest.length), rest)

/-- The tokens that a reader gives, or those that it reads just as they are where it says so. -/
def asReadIf (r : Reader (Tokens × Bool)) : Reader Tokens := fun s =>
  (r s).map fun ((tokens, isAsRead), rest) =>
    (if isAsRead then s.take (s.length - rest.length) else tokens, rest)

/-- Applies a reader again and again as long as a test holds, at most `fuel` times. -/
def repeatUpTo (t : Test) (r : Reader Tokens) : Nat → Reader Tokens
  | 0 => refuse
  | fuel + 1 => do
    if ← next t then
      let first ← r
      let rest ← repeatUpTo t r fuel
      return first ++ rest
    else return []

/-- Applies a reader again and again as long as a test holds; each time it takes a token at least. -/
def repeatWhile (t : Test) (r : Reader Tokens) : Reader Tokens := do
  repeatUpTo t r ((← get).length + 1)

def untilEnd (r : Reader Tokens) : Reader Tokens := repeatWhile (Ahead.none Ahead.atEnd) r

/-- What a reader gives each time that a test holds, at most `fuel` times. -/
def collectUpTo {α : Type} (t : Test) (r : Reader α) : Nat → Reader (List α)
  | 0 => refuse
  | fuel + 1 => do
    if ← next t then
      let first ← r
      let rest ← collectUpTo t r fuel
      return first :: rest
    else return []

/-- What a reader gives each time that a test holds; each time it takes a token at least. -/
def collectWhile {α : Type} (t : Test) (r : Reader α) : Reader (List α) := do
  collectUpTo t r ((← get).length + 1)

def maybe {α : Type} (t : Test) (r : Reader α) : Reader (Option α) := do
  if ← next t then some <$> r else return none

/-- At most `fuel` items with a separator between each two, up to where a test holds. Each comes with
whether a separator follows it. -/
def listUpTo {α : Type} (item : Reader α) (stops : Test) (separator : String) :
    Nat → Reader (List (α × Bool))
  | 0 => refuse
  | fuel + 1 => do
    if ← next stops then return []
    let first ← item
    if ← next stops then return [(first, false)]
    let _ ← mark separator
    let rest ← listUpTo item stops separator fuel
    return (first, true) :: rest

def list {α : Type} (item : Reader α) (stops : Test) (separator : String) :
    Reader (List (α × Bool)) := do
  listUpTo item stops separator ((← get).length + 1)

/-- At most `fuel` items as long as a separator follows each; a test may end them behind one. -/
def chainUpTo {α : Type} (item : Reader α) (stops : Test) (separator : String) :
    Nat → Reader (List (α × Bool))
  | 0 => refuse
  | fuel + 1 => do
    if ← next stops then return []
    let first ← item
    if ← hasMark separator then
      let rest ← chainUpTo item stops separator fuel
      return (first, true) :: rest
    else return [(first, false)]

/-- Items as long as a separator follows each; a test may end them behind one. -/
def chain {α : Type} (item : Reader α) (stops : Test) (separator : String) :
    Reader (List (α × Bool)) := do
  chainUpTo item stops separator ((← get).length + 1)

/-- The items of a list, and whether a separator follows the last one. -/
def listed {α : Type} (items : List (α × Bool)) : List α × Bool :=
  (items.map (·.1), (items.getLast?.map (·.2)).getD false)

def frontFirst {α : Type} (isFront : α → Bool) (items : List (α × Bool)) : List (α × Bool) :=
  items.filter (fun item => isFront item.1) ++ items.filter (fun item => !isFront item.1)

end Reader

end AttributeSchema.Source
