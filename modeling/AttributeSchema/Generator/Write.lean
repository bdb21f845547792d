import AttributeSchema.Files.FileTree
import AttributeSchema.Generator.Output
import AttributeSchema.Text.Utf8
/-!
# Writing generated files

A file is written beside its place and then moved there, so that at every moment its place holds the
old content or the new one. The directories above it are made first.
-/

namespace AttributeSchema

namespace Artifact

def temporaryExtension : String := "rs.tmp"

def temporaryPath (path : String) : String :=
  String.ofList (PathText.withExtension path.toList temporaryExtension.toList)

def failure (path : String) (e : FileError) : GeneratorError := .write path e.message

def prepare (files : FileTree) (path : String) : FileTree × Except GeneratorError Unit :=
  match PathText.parent? path.toList with
  | none => (files, .ok ())
  | some parent =>
    let (files, result) := files.makeDirectories parent
    (files, result.mapError (failure (String.ofList parent)))

/-- Writes a file by way of its temporary path, in a directory that exists. -/
def replace (files : FileTree) (path content : String) : FileTree × Except GeneratorError Unit :=
  let temporary := temporaryPath path
  match files.write temporary.toList (Text.Utf8.encode content.toList) with
  | .error e => (files, .error (failure temporary e))
  | .ok files =>
    match files.moveFile temporary.toList path.toList with
    | .error e => (files, .error (failure path e))
    | .ok files => (files, .ok ())

def writeContent (files : FileTree) (path content : String) :
    FileTree × Except GeneratorError Unit :=
  match prepare files path with
  | (files, .error e) => (files, .error e)
  | (files, .ok _) => replace files path content

def pathIn (directory : String) (a : Artifact) : String :=
  String.ofList (PathText.join directory.toList a.name.toList)

def writeAll (files : FileTree) (directory : String) :
    List Artifact → FileTree × Except GeneratorError Unit
  | [] => (files, .ok ())
  | a :: rest =>
    match writeContent files (a.pathIn directory) a.content with
    | (files, .error e) => (files, .error e)
    | (files, .ok _) => writeAll files directory rest

structure Outcome where
  result : Except GeneratorError (List Artifact)
  output : String
  files : FileTree

def generateInto (files : FileTree) (units : List GenerationUnit) (directory : String)
    (isPrinted : Bool) : Outcome :=
  match generate units with
  | .error e => ⟨.error e, "", files⟩
  | .ok artifacts =>
    if isPrinted then ⟨.ok artifacts, printed artifacts, files⟩
    else
      let (files, result) := writeAll files directory artifacts
      ⟨result.map fun _ => artifacts, "", files⟩

end Artifact

end AttributeSchema
