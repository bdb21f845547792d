/-!
# Names of generated functions

A schema function is named for its type: the leading capitals are lowered, every other capital becomes
an underscore and a small letter, and a suffix follows. Only the letters of ASCII have cases here.
-/

namespace AttributeSchema.Naming

def isCapital (c : Char) : Bool := c.isUpper

def lower (c : Char) : Char := c.toLower

/-- How many of the leading capitals are lowered: a single one, else all but the last, which starts the
next word. -/
def loweredCount (name : List Char) : Nat :=
  let run := (name.takeWhile isCapital).length
  if run ≤ 1 then run else run - 1

def camelChars (name : List Char) : List Char :=
  (name.take (loweredCount name)).map lower ++ name.drop (loweredCount name)

def snakeChar (c : Char) : List Char := if isCapital c then ['_', lower c] else [c]

/-- A name whose words are separated by underscores. -/
def snakeChars : List Char → List Char
  | [] => []
  | c :: rest => lower c :: rest.flatMap snakeChar

def camelCase (name : String) : String := String.ofList (camelChars name.toList)

def snakeCase (name : String) : String := String.ofList (snakeChars name.toList)

def suffix : String := "_attributes"

def attributesName (type : String) : String := snakeCase (camelCase type) ++ suffix

end AttributeSchema.Naming
