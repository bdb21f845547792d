/-!
# Paths

A path is a text of parts between slashes. An empty part has no meaning, and neither has a dot except at
the very start of a path. Other parts are names or point to the directory above.
-/

namespace AttributeSchema.PathText

/-- The parts of a path between its slashes, at least one. -/
def split : List Char → List (List Char)
  | [] => [[]]
  | '/' :: rest => [] :: split rest
  | c :: rest =>
    match split rest with
    | [] => [[c]]
    | part :: more => (c :: part) :: more

def unsplit (parts : List (List Char)) : List Char := List.intercalate ['/'] parts

def isMeaningful (part : List Char) : Bool := !part.isEmpty && part != ['.']

def isName (part : List Char) : Bool := isMeaningful part && part != ['.', '.']

/-- Parts, last one first, without those at the end of a path that have no meaning. -/
def dropMeaningless : List (List Char) → List (List Char)
  | [] => []
  | [first] => if first.isEmpty then [] else [first]
  | part :: before => if isMeaningful part then part :: before else dropMeaningless before

/-- The parts of a path up to the last one with a meaning, that one first. -/
def reversedParts (path : List Char) : List (List Char) := dropMeaningless (split path).reverse

def isAbsolute (path : List Char) : Bool := path.head? == some '/'

/-- The path without its last part; only a path without parts has none. -/
def parent? (path : List Char) : Option (List Char) :=
  match reversedParts path with
  | [] => none
  | _ :: before =>
    let kept := dropMeaningless before
    some (if kept.isEmpty && isAbsolute path then ['/'] else unsplit kept.reverse)

def fileName? (path : List Char) : Option (List Char) :=
  match reversedParts path with
  | [] => none
  | part :: _ => if isName part then some part else none

/-- A name up to its last point and what follows that point; a point at the start does not count. -/
def splitExtension (name : List Char) : List Char × Option (List Char) :=
  let after := (name.reverse.takeWhile (· != '.')).reverse
  match (name.reverse.dropWhile (· != '.')).reverse.dropLast with
  | [] => (name, none)
  | stem => (stem, some after)

def extension? (path : List Char) : Option (List Char) :=
  (fileName? path).bind fun name => (splitExtension name).2

def withExtension (path extension : List Char) : List Char :=
  match reversedParts path with
  | [] => path
  | part :: before =>
    if isName part then
      unsplit (((splitExtension part).1 ++ '.' :: extension) :: before).reverse
    else path

def join (directory name : List Char) : List Char :=
  if isAbsolute name || directory.isEmpty then name
  else if directory.getLast? == some '/' then directory ++ name
  else directory ++ '/' :: name

def ancestors : Nat → List Char → List (List Char)
  | 0, _ => []
  | fuel + 1, path =>
    match parent? path with
    | none => []
    | some parent => path :: ancestors fuel parent

end AttributeSchema.PathText
