import AttributeSchema.Text.Blank
import AttributeSchema.Text.Identifier
import AttributeSchema.Source.Literal
import AttributeSchema.Source.Token
/-!
# Reading tokens

Source text is cut into token trees. Blanks and comments separate tokens and are dropped, except for
documentation comments, which stand for an attribute `doc`. A text is refused when a bracket has no
partner or when some position starts no token.
-/

namespace AttributeSchema.Source.Lexer

open Text (startsIdentifier continuesIdentifier)

/-! ### Blanks and comments -/

/-- White space of source text: that of a text, and the two direction marks. -/
def isSpace (c : Char) : Bool :=
  Text.isBlank c || c == '\u200e' || c == '\u200f'

def restOfLine : List Char → List Char × List Char
  | [] => ([], [])
  | '\n' :: rest => ([], '\n' :: rest)
  | '\r' :: '\n' :: rest => ([], '\n' :: rest)
  | c :: rest => let (line, after) := restOfLine rest; (c :: line, after)

/-- A comment between `/*` and its `*/`, where comments nest, and what follows it. -/
def blockComment (depth : Nat) : List Char → Option (List Char × List Char)
  | '/' :: '*' :: rest =>
    (blockComment (depth + 1) rest).map fun (text, after) => ('/' :: '*' :: text, after)
  | '*' :: '/' :: rest =>
    if depth ≤ 1 then some (['*', '/'], rest)
    else (blockComment (depth - 1) rest).map fun (text, after) => ('*' :: '/' :: text, after)
  | c :: rest => (blockComment depth rest).map fun (text, after) => (c :: text, after)
  | [] => none

/-- What follows one blank or one plain comment at the start of the text. -/
def afterBlank? : List Char → Option (List Char)
  | s@('/' :: '/' :: rest) =>
    match rest with
    | '/' :: '/' :: _ => some (restOfLine s).2
    | '/' :: _ => none
    | '!' :: _ => none
    | _ => some (restOfLine s).2
  | s@('/' :: '*' :: rest) =>
    match rest with
    | '*' :: '/' :: after => some after
    | '*' :: '*' :: _ => (blockComment 0 s).map (·.2)
    | '*' :: _ => none
    | '!' :: _ => none
    | _ => (blockComment 0 s).map (·.2)
  | c :: rest => if isSpace c then some rest else none
  | [] => none

/-- Drops blanks and plain comments, of which there are at most `fuel`. -/
def skipBlanks : Nat → List Char → List Char
  | 0, s => s
  | fuel + 1, s =>
    match afterBlank? s with
    | some rest => skipBlanks fuel rest
    | none => s

/-- Whether each carriage return stands before a line feed. -/
def returnsArePaired : List Char → Bool
  | [] => true
  | '\r' :: '\n' :: rest => returnsArePaired rest
  | '\r' :: _ => false
  | _ :: rest => returnsArePaired rest

/-- The text inside a block comment without the three characters that open it and the two that
close it. -/
def commentBody (comment : List Char) : List Char := (comment.drop 3).dropLast.dropLast

/-- A documentation comment: whether it documents what it stands in, its text, and the rest. -/
def docComment? : List Char → Option (Bool × List Char × List Char)
  | '/' :: '/' :: '!' :: rest => let (line, after) := restOfLine rest; some (true, line, after)
  | s@('/' :: '*' :: '!' :: _) =>
    (blockComment 0 s).map fun (text, after) => (true, commentBody text, after)
  | '/' :: '/' :: '/' :: rest =>
    if rest.head? = some '/' then none
    else let (line, after) := restOfLine rest; some (false, line, after)
  | s@('/' :: '*' :: '*' :: rest) =>
    if rest.head? = some '*' then none
    else (blockComment 0 s).map fun (text, after) => (false, commentBody text, after)
  | _ => none

def docAttribute (inner : Bool) (text : List Char) : List Token :=
  let body := Token.group .bracket
    [.word "doc", .mark '=' false, .literal (Literal.ofText (String.ofList text))]
  if inner then [.mark '#' false, .mark '!' false, body] else [.mark '#' false, body]

/-! ### Words -/

def plainWord? : List Char → Option (List Char × List Char)
  | [] => none
  | c :: rest =>
    if startsIdentifier c then
      some (c :: rest.takeWhile continuesIdentifier, rest.dropWhile continuesIdentifier)
    else none

def hasNoRawForm (word : List Char) : Bool :=
  String.ofList word ∈ ["_", "super", "self", "Self", "crate"]

def anyWord? : List Char → Option (List Char × List Char)
  | 'r' :: '#' :: rest =>
    match plainWord? rest with
    | some (word, after) => if hasNoRawForm word then none else some ('r' :: '#' :: word, after)
    | none => none
  | s => plainWord? s

/-- Whether the text starts like a prefixed literal, which is never a word. -/
def startsPrefixedLiteral : List Char → Bool
  | 'r' :: '"' :: _ => true
  | 'r' :: '#' :: '"' :: _ => true
  | 'r' :: '#' :: '#' :: _ => true
  | 'b' :: '"' :: _ => true
  | 'b' :: '\'' :: _ => true
  | 'b' :: 'r' :: '"' :: _ => true
  | 'b' :: 'r' :: '#' :: _ => true
  | 'c' :: '"' :: _ => true
  | 'c' :: 'r' :: '"' :: _ => true
  | 'c' :: 'r' :: '#' :: _ => true
  | _ => false

/-- An identifier that is not the start of a prefixed literal. -/
def word? (s : List Char) : Option (List Char × List Char) :=
  if startsPrefixedLiteral s then none else anyWord? s

/-! ### Literals -/

def afterSuffix (s : List Char) : List Char :=
  match plainWord? s with
  | some (_, rest) => rest
  | none => s

def hexValue? (c : Char) : Option Nat :=
  if '0' ≤ c ∧ c ≤ '9' then some (c.toNat - 48)
  else if 'a' ≤ c ∧ c ≤ 'f' then some (c.toNat - 87)
  else if 'A' ≤ c ∧ c ≤ 'F' then some (c.toNat - 55)
  else none

/-- What a literal in quotes stands for: text, bytes, or bytes that end at the first null. -/
inductive Quoting
  | text
  | bytes
  | terminated
  deriving DecidableEq, Repr

namespace Quoting

def admits : Quoting → Char → Bool
  | text, _ => true
  | bytes, c => c.toNat < 128
  | terminated, c => c != '\x00'

/-- Whether an escape may name a byte by these two hexadecimal digits. -/
def admitsByte : Quoting → Nat → Nat → Bool
  | text, high, _ => high < 8
  | bytes, _, _ => true
  | terminated, high, low => 0 < high + low

def simpleEscapes : Quoting → List Char
  | terminated => ['n', 'r', 't', '\\', '\'', '"']
  | _ => ['n', 'r', 't', '\\', '\'', '"', '0']

def admitsCodePoint : Quoting → Nat → Bool
  | text, value => value.isValidChar
  | bytes, _ => false
  | terminated, value => value.isValidChar && 0 < value

end Quoting

def afterCodePoint (quoting : Quoting) (value digits : Nat) : List Char → Option (List Char)
  | '}' :: rest => if 0 < digits ∧ quoting.admitsCodePoint value then some rest else none
  | '_' :: rest => if 0 < digits then afterCodePoint quoting value digits rest else none
  | c :: rest =>
    match hexValue? c with
    | some d =>
      if digits = 6 then none else afterCodePoint quoting (value * 16 + d) (digits + 1) rest
    | none => none
  | [] => none

/-- What follows one escape, the backslash already read; an escaped line end is not one of these. -/
def afterEscape? (quoting : Quoting) : List Char → Option (List Char)
  | 'x' :: a :: b :: rest =>
    match hexValue? a, hexValue? b with
    | some high, some low => if quoting.admitsByte high low then some rest else none
    | _, _ => none
  | 'u' :: '{' :: rest => afterCodePoint quoting 0 0 rest
  | c :: rest => if c ∈ quoting.simpleEscapes then some rest else none
  | [] => none

def isLineBlank (c : Char) : Bool := c == ' ' || c == '\t' || c == '\n' || c == '\r'

def afterQuoted (quoting : Quoting) : Nat → List Char → Option (List Char)
  | 0, _ => none
  | fuel + 1, s =>
    match s with
    | [] => none
    | '"' :: rest => some (afterSuffix rest)
    | '\r' :: '\n' :: rest => afterQuoted quoting fuel rest
    | '\r' :: _ => none
    | '\\' :: c :: rest =>
      if c = '\n' ∨ c = '\r' then
        let skipped := (c :: rest).takeWhile isLineBlank
        if returnsArePaired skipped then
          afterQuoted quoting fuel ((c :: rest).dropWhile isLineBlank)
        else none
      else
        match afterEscape? quoting (c :: rest) with
        | some after => afterQuoted quoting fuel after
        | none => none
    | '\\' :: [] => none
    | c :: rest => if quoting.admits c then afterQuoted quoting fuel rest else none

def afterRawQuoted (quoting : Quoting) (signs : Nat) : List Char → Option (List Char)
  | [] => none
  | '\r' :: '\n' :: rest => afterRawQuoted quoting signs rest
  | '\r' :: _ => none
  | '"' :: rest =>
    if (rest.take signs).length = signs ∧ (rest.take signs).all (· == '#')
    then some (afterSuffix (rest.drop signs))
    else afterRawQuoted quoting signs rest
  | c :: rest => if quoting.admits c then afterRawQuoted quoting signs rest else none

/-- What follows a raw literal, its letter already read. -/
def afterRaw? (quoting : Quoting) (s : List Char) : Option (List Char) :=
  let signs := (s.takeWhile (· == '#')).length
  match s.drop signs with
  | '"' :: rest => if signs ≤ 255 then afterRawQuoted quoting signs rest else none
  | _ => none

/-- What follows the closing quote of a character, the opening one already read. -/
def afterCharacter? (quoting : Quoting) (s : List Char) : Option (List Char) :=
  let closed : List Char → Option (List Char)
    | '\'' :: rest => some (afterSuffix rest)
    | _ => none
  match s with
  | '\\' :: rest => (afterEscape? quoting rest).bind closed
  | c :: rest => if quoting.admits c then closed rest else none
  | [] => none

def afterQuotes? (s : List Char) : Option (List Char) :=
  match s with
  | '"' :: rest => afterQuoted .text (rest.length + 1) rest
  | 'r' :: rest => afterRaw? .text rest
  | 'b' :: '"' :: rest => afterQuoted .bytes (rest.length + 1) rest
  | 'b' :: 'r' :: rest => afterRaw? .bytes rest
  | 'c' :: '"' :: rest => afterQuoted .terminated (rest.length + 1) rest
  | 'c' :: 'r' :: rest => afterRaw? .terminated rest
  | 'b' :: '\'' :: rest => afterCharacter? .bytes rest
  | '\'' :: rest => afterCharacter? .text rest
  | _ => none

def isDigitOrGap (c : Char) : Bool := c.isDigit || c == '_'

/-- What follows the exponent of a number, its letter already read. -/
def afterExponent? (s : List Char) : Option (List Char) :=
  let gap := s.dropWhile (· == '_')
  let unsigned :=
    match gap with
    | '+' :: rest => rest
    | '-' :: rest => rest
    | _ => gap
  let body := unsigned.takeWhile isDigitOrGap
  if body.any Char.isDigit then some (unsigned.dropWhile isDigitOrGap) else none

/-- What follows a number with a point or an exponent, its suffix not yet read. -/
def afterFloatDigits? (s : List Char) : Option (List Char) :=
  match s with
  | [] => none
  | c :: _ =>
    if !c.isDigit then none
    else
      match s.dropWhile isDigitOrGap with
      | '.' :: rest =>
        if rest.head?.any fun d => d == '.' || startsIdentifier d then none
        else
          let after := rest.dropWhile isDigitOrGap
          match after with
          | e :: tail =>
            if e == 'e' || e == 'E' then some ((afterExponent? tail).getD after) else some after
          | [] => some after
      | e :: tail => if e == 'e' || e == 'E' then afterExponent? tail else none
      | [] => none

def afterIntegerDigits? (s : List Char) : Option (List Char) :=
  let (base, digits) :=
    match s with
    | '0' :: 'x' :: rest => (16, rest)
    | '0' :: 'o' :: rest => (8, rest)
    | '0' :: 'b' :: rest => (2, rest)
    | _ => (10, s)
  let isPart (c : Char) : Bool := c == '_' || c.isDigit || (base == 16 && (hexValue? c).isSome)
  let body := digits.takeWhile isPart
  if base == 10 && body.head? == some '_' then none
  else if body.any fun c => c.isDigit && base ≤ c.toNat - 48 then none
  else if body.all (· == '_') then none
  else some (digits.dropWhile isPart)

/-- The end of a number: its suffix, after which no identifier character may follow. -/
def closeNumber (s : List Char) : Option (List Char) :=
  let rest := afterSuffix s
  if rest.head?.any continuesIdentifier then none else some rest

def afterLiteral? (s : List Char) : Option (List Char) :=
  match afterQuotes? s with
  | some rest => some rest
  | none =>
    match (afterFloatDigits? s).bind closeNumber with
    | some rest => some rest
    | none => (afterIntegerDigits? s).bind closeNumber

/-! ### Punctuation -/

def isMark (c : Char) : Bool := c ∈ "~!@#$%^&*-=+|;:,<.>/?'".toList

/-- A punctuation character at the start of the text; the start of a comment is none. -/
def mark? : List Char → Option (Char × List Char)
  | '/' :: '/' :: _ => none
  | '/' :: '*' :: _ => none
  | c :: rest => if isMark c then some (c, rest) else none
  | [] => none

/-- A punctuation token. A quote needs an identifier after it that no other quote closes. -/
def markToken? (s : List Char) : Option (Token × List Char) :=
  match mark? s with
  | none => none
  | some (c, rest) =>
    if c = '\'' then
      match anyWord? rest with
      | none => none
      | some (_, after) =>
        if after.head? = some '\'' then none
        else if after.head? = some '#' ∧ !(rest.take 2 == ['r', '#']) then none
        else some (.mark '\'' true, rest)
    else some (.mark c (mark? rest).isSome, rest)

/-- The literal that stands for source text which could not be read. -/
def errorLiteral : String := "(/*ERROR*/)"

/-- What follows the literal for unreadable source, where the text starts with it. -/
def afterErrorLiteral? (s : List Char) : Option (List Char) :=
  if errorLiteral.toList.isPrefixOf s then some (s.drop errorLiteral.toList.length) else none

def leaf? (s : List Char) : Option (Token × List Char) :=
  match afterErrorLiteral? s <|> afterLiteral? s with
  | some rest => some (.literal (String.ofList (s.take (s.length - rest.length))), rest)
  | none =>
    match markToken? s with
    | some found => some found
    | none => (word? s).map fun (word, rest) => (.word (String.ofList word), rest)

/-! ### Token trees -/

/-- The bracket that opens a group at the start of the text. The literal for unreadable source opens
none. -/
def opening? (s : List Char) : Option Delimiter :=
  if (afterErrorLiteral? s).isSome then none else s.head?.bind Delimiter.ofOpening?

/-- The tokens up to the end of the text or to a closing bracket that has no partner, and the rest
from there on. Every step reads at least one character, so `fuel` above the length is enough. -/
def sequence : Nat → List Char → Option (List Token × List Char)
  | 0, _ => none
  | fuel + 1, s =>
    let s := skipBlanks s.length s
    match docComment? s with
    | some (inner, text, rest) =>
      if returnsArePaired text then
        (sequence fuel rest).map fun (tokens, after) => (docAttribute inner text ++ tokens, after)
      else none
    | none =>
      match s with
      | [] => some ([], [])
      | c :: rest =>
        match opening? s with
        | some delimiter =>
          match sequence fuel rest with
          | some (content, closing :: after) =>
            if closing = delimiter.closing then
              (sequence fuel after).map fun (tokens, final) =>
                (.group delimiter content :: tokens, final)
            else none
          | _ => none
        | none =>
          if (Delimiter.ofClosing? c).isSome then some ([], s)
          else
            match leaf? s with
            | some (token, after) =>
              (sequence fuel after).map fun (tokens, final) => (token :: tokens, final)
            | none => none

/-- The text without the byte order mark that may open it. -/
def withoutOrderMark : List Char → List Char
  | '\ufeff' :: rest => rest
  | s => s

def tokens? (text : String) : Option (List Token) :=
  let s := withoutOrderMark text.toList
  match sequence (s.length + 1) s with
  | some (tokens, []) => some tokens
  | _ => none

end AttributeSchema.Source.Lexer
