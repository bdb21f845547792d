import AttributeSchema.Files.PathText
/-!
# File trees

A tree has directories and files at locations below its root. Paths that do not start at the root start
at the working directory. Every operation either does its work or gives the reason why it cannot.
-/

namespace AttributeSchema

/-- A place in a tree: the names that lead to it from the root. -/
abbrev Location := List String

inductive Entry
  | directory
  | file (content : List UInt8)
  deriving DecidableEq, Repr, Inhabited

inductive FileError
  | notFound
  | alreadyExists
  | notDirectory
  | isDirectory
  | busy
  | nameTooLong
  | nullInPath
  | noText
  deriving DecidableEq, Repr, Inhabited

def FileError.message : FileError → String
  | notFound => "No such file or directory (os error 2)"
  | alreadyExists => "File exists (os error 17)"
  | notDirectory => "Not a directory (os error 20)"
  | isDirectory => "Is a directory (os error 21)"
  | busy => "Device or resource busy (os error 16)"
  | nameTooLong => "File name too long (os error 36)"
  | nullInPath => "file name contained an unexpected NUL byte"
  | noText => "stream did not contain valid UTF-8"

/-- A tree of files; the root is a directory that is not among the entries. -/
structure FileTree where
  entries : List (Location × Entry)
  workingDirectory : Location
  deriving DecidableEq, Repr, Inhabited

namespace FileTree

def entry? (t : FileTree) : Location → Option Entry
  | [] => some .directory
  | l => t.entries.lookup l

def erase (t : FileTree) (l : Location) : FileTree :=
  { t with entries := t.entries.filter fun e => e.1 != l }

def put (t : FileTree) (l : Location) (e : Entry) : FileTree :=
  { t with entries := (l, e) :: (t.erase l).entries }

/-- Whether a name has more bytes than a directory can hold. -/
def isTooLong (name : String) : Bool := 255 < name.utf8ByteSize

/-- Whether a path can be looked up at all: it is not empty, has no null character, and is not too long. -/
def check (path : List Char) : Except FileError Unit :=
  if path.contains '\x00' then .error .nullInPath
  else if path.isEmpty then .error .notFound
  else if 4095 < (String.ofList path).utf8ByteSize then .error .nameTooLong
  else .ok ()

/-- The location that parts lead to from another one. Every part but the last one has to lead to a
directory. -/
def walk (t : FileTree) (l : Location) : List (List Char) → Except FileError Location
  | [] => .ok l
  | part :: rest =>
    match t.entry? l with
    | none => .error .notFound
    | some (.file _) => .error .notDirectory
    | some .directory =>
      if !PathText.isMeaningful part then t.walk l rest
      else if part = ['.', '.'] then t.walk l.dropLast rest
      else if isTooLong (String.ofList part) then .error .nameTooLong
      else t.walk (l ++ [String.ofList part]) rest

def start (t : FileTree) (path : List Char) : Location :=
  if PathText.isAbsolute path then [] else t.workingDirectory

/-- The location of a path; something may stand there or not. -/
def locate (t : FileTree) (path : List Char) : Except FileError Location := do
  check path
  t.walk (t.start path) (PathText.split path)

def find (t : FileTree) (path : List Char) : Except FileError Entry := do
  match t.entry? (← t.locate path) with
  | some e => .ok e
  | none => .error .notFound

def isDirectory (t : FileTree) (path : List Char) : Bool :=
  match t.find path with
  | .ok .directory => true
  | _ => false

/-- What the end of a path says about an entry to be made. -/
inductive Target
  /-- The location of a name in a directory, and whether a slash follows the name. -/
  | named (l : Location) (hasSlash : Bool)
  /-- A directory that exists, under no name of its own. -/
  | unnamed

/-- Empty parts at the end of a path, last part first, are slashes behind the name. -/
def dropSlashes : List (List Char) → List (List Char) × Bool
  | [] => ([], false)
  | [] :: before => ((dropSlashes before).1, true)
  | part :: before => (part :: before, false)

def target (t : FileTree) (path : List Char) : Except FileError Target := do
  check path
  match dropSlashes (PathText.split path).reverse with
  | ([], _) => .ok .unnamed
  | (last :: before, hasSlash) =>
    let l ← t.walk (t.start path) (before.reverse ++ [[]])
    if PathText.isName last then .ok (.named (l ++ [String.ofList last]) hasSlash)
    else .ok .unnamed

/-- What stands at the location of a name, unless the name is too long. -/
def lookUp (t : FileTree) (l : Location) : Except FileError (Option Entry) :=
  if l.getLast?.any isTooLong then .error .nameTooLong else .ok (t.entry? l)

def read (t : FileTree) (path : List Char) : Except FileError (List UInt8) := do
  match ← t.find path with
  | .file content => .ok content
  | .directory => .error .isDirectory

def write (t : FileTree) (path : List Char) (content : List UInt8) : Except FileError FileTree := do
  match ← t.target path with
  | .unnamed => .error .isDirectory
  | .named _ true => .error .isDirectory
  | .named l false =>
    if (← t.lookUp l) == some .directory then .error .isDirectory
    else .ok (t.put l (.file content))

def makeDirectory (t : FileTree) (path : List Char) : Except FileError FileTree := do
  match ← t.target path with
  | .unnamed => .error .alreadyExists
  | .named l _ =>
    if (← t.lookUp l).isSome then .error .alreadyExists else .ok (t.put l .directory)

def moveFile (t : FileTree) (old new : List Char) : Except FileError FileTree := do
  match ← t.target old, ← t.target new with
  | .named l oldSlash, .named m newSlash =>
    match ← t.lookUp l with
    | none => .error .notFound
    | some .directory => .error .isDirectory
    | some (.file content) =>
      let found ← t.lookUp m
      if oldSlash || newSlash then .error .notDirectory
      else if found == some .directory then .error .isDirectory
      else .ok ((t.erase l).put m (.file content))
  | _, _ => .error .busy

/-- The names in a directory, in no particular order. -/
def names (t : FileTree) (path : List Char) : Except FileError (List String) := do
  let l ← t.locate path
  match t.entry? l with
  | none => .error .notFound
  | some (.file _) => .error .notDirectory
  | some .directory =>
    .ok (t.entries.filterMap fun e =>
      match e.1.getLast? with
      | some name => if e.1.dropLast = l then some name else none
      | none => none)

/-- Makes the first of some directories, each above the one before it, and those above it that are
missing. A tree in which some of them have been made comes with an error too. -/
def makeChain (t : FileTree) : List (List Char) → FileTree × Except FileError Unit
  | [] => (t, .ok ())
  | path :: above =>
    let settle (t : FileTree) (e : FileError) : FileTree × Except FileError Unit :=
      (t, if t.isDirectory path then .ok () else .error e)
    match t.makeDirectory path with
    | .ok made => (made, .ok ())
    | .error .notFound =>
      match t.makeChain above with
      | (t, .error e) => (t, .error e)
      | (t, .ok _) =>
        match t.makeDirectory path with
        | .ok made => (made, .ok ())
        | .error e => settle t e
    | .error e => settle t e

/-- Makes a directory and those above it that are missing. -/
def makeDirectories (t : FileTree) (path : List Char) : FileTree × Except FileError Unit :=
  t.makeChain (PathText.ancestors (path.length + 1) path)

end FileTree

end AttributeSchema
