import AttributeSchema.CommandLine
/-!
# The program

Reads the arguments, and writes the artifacts of the bundled units or prints what was asked for.
-/

open AttributeSchema CommandLine

def writeArtifact (directory : String) (a : Artifact) : IO Unit := do
  let path := a.pathIn directory
  match PathText.parent? path.toList with
  | some (c :: rest) => IO.FS.createDirAll (String.ofList (c :: rest))
  | _ => pure ()
  IO.FS.writeFile (Artifact.temporaryPath path) a.content
  IO.FS.rename (Artifact.temporaryPath path) path

def writeUnits (units : List GenerationUnit) (o : Options) : IO UInt32 := do
  match Artifact.generate units with
  | .error e =>
    IO.eprint (failedMessage e)
    return 1
  | .ok artifacts =>
    for a in artifacts do
      try writeArtifact o.directory a
      catch e =>
        IO.eprint (failedMessage (.write (a.pathIn o.directory) (toString e)))
        return 1
    IO.eprint (writtenMessage artifacts.length o.directory)
    return 0

def main (arguments : List String) : IO UInt32 := do
  match read .initial arguments with
  | .run o =>
    if !o.isDescription && !o.isDryRun then writeUnits Bundled.Table.units o
    else
      let finish := execute ⟨[], []⟩ Bundled.Table.units o
      IO.print finish.output
      IO.eprint finish.messages
      return finish.code.toUInt32
  | _ =>
    let finish := run ⟨[], []⟩ arguments
    IO.print finish.output
    IO.eprint finish.messages
    return finish.code.toUInt32
