/-!
# Tokens of source text

Source text is a sequence of token trees: words, punctuation marks, literals, and groups between a
pair of delimiters.
-/

namespace AttributeSchema.Source

inductive Delimiter
  | parenthesis
  | brace
  | bracket
  deriving DecidableEq, Repr, Inhabited

namespace Delimiter

def opening : Delimiter → Char
  | parenthesis => '('
  | brace => '{'
  | bracket => '['

def closing : Delimiter → Char
  | parenthesis => ')'
  | brace => '}'
  | bracket => ']'

def ofOpening? : Char → Option Delimiter
  | '(' => some parenthesis
  | '{' => some brace
  | '[' => some bracket
  | _ => none

def ofClosing? : Char → Option Delimiter
  | ')' => some parenthesis
  | '}' => some brace
  | ']' => some bracket
  | _ => none

end Delimiter

inductive Token
  /-- An identifier or keyword as spelled; a raw identifier keeps its mark `r#`. -/
  | word (text : String)
  /-- A punctuation character, and whether another one follows it directly. -/
  | mark (c : Char) (joint : Bool)
  /-- A literal as spelled. -/
  | literal (text : String)
  | group (delimiter : Delimiter) (content : List Token)
  deriving Repr, Inhabited

namespace Token

mutual
def spelling : Token → String
  | word text => text
  | mark c _ => c.toString
  | literal text => text
  | group d content => d.opening.toString ++ spellings content ++ d.closing.toString

def spellings : List Token → String
  | [] => ""
  | t :: rest => t.spelling ++ spellings rest
end

mutual
/-- The number of tokens in a tree, the tree itself included. -/
def size : Token → Nat
  | group _ content => 1 + sizes content
  | _ => 1

def sizes : List Token → Nat
  | [] => 0
  | t :: rest => t.size + sizes rest
end

end Token

end AttributeSchema.Source
