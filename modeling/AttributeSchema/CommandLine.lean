import AttributeSchema.Descriptor.Bundled
import AttributeSchema.Descriptor.Json
import AttributeSchema.Generator.Write
/-!
# The command line

The program generates the bundled units into a directory, prints what it would generate, or prints the
descriptors. An option is a letter behind a hyphen or a name behind two; several letters may follow one
hyphen. What is no option is refused, and so is an option that is given twice, but for the one that asks
for more messages.
-/

namespace AttributeSchema.CommandLine

structure Options where
  output : Option String
  isDryRun : Bool
  isDescription : Bool
  /-- How often more messages are asked for. -/
  verbosity : Nat
  hasJsonMessages : Bool
  deriving DecidableEq, Repr, Inhabited

def Options.initial : Options := ⟨none, false, false, 0, false⟩

def defaultOutput : String := "attrgen/schema/src"

def Options.directory (o : Options) : String := o.output.getD defaultOutput

inductive Switch
  | dryRun
  | describe
  | verbose
  | json
  | help
  | version
  deriving DecidableEq, Repr

inductive Meaning
  | switch (s : Switch)
  /-- The option takes the directory as its value. -/
  | output
  deriving DecidableEq, Repr

def names : List (String × Meaning) :=
  [("output", .output), ("dry-run", .switch .dryRun), ("describe", .switch .describe),
    ("verbose", .switch .verbose), ("json", .switch .json), ("help", .switch .help),
    ("version", .switch .version)]

def letters : List (Char × Meaning) :=
  [('o', .output), ('v', .switch .verbose), ('h', .switch .help), ('V', .switch .version)]

inductive Request
  | run (o : Options)
  | help
  | version
  | refused
  deriving DecidableEq, Repr, Inhabited

inductive Progress
  | more (o : Options)
  /-- The next argument is the directory. -/
  | wantsOutput
  | ended (r : Request)
  deriving DecidableEq, Repr

/-- Takes the directory, which is given once. -/
def Options.withOutput (o : Options) (value : String) : Progress :=
  if o.output.isSome then .ended .refused else .more { o with output := some value }

def Options.withSwitch (o : Options) : Switch → Progress
  | .dryRun => if o.isDryRun then .ended .refused else .more { o with isDryRun := true }
  | .describe => if o.isDescription then .ended .refused else .more { o with isDescription := true }
  | .verbose => .more { o with verbosity := o.verbosity + 1 }
  | .json => if o.hasJsonMessages then .ended .refused else .more { o with hasJsonMessages := true }
  | .help => .ended .help
  | .version => .ended .version

def takeLetters (o : Options) : List Char → Progress
  | [] => .more o
  | c :: rest =>
    match letters.lookup c with
    | none => .ended .refused
    | some .output =>
      match rest with
      | [] => .wantsOutput
      | '=' :: value => o.withOutput (String.ofList value)
      | value => o.withOutput (String.ofList value)
    | some (.switch s) =>
      match o.withSwitch s with
      | .more o => takeLetters o rest
      | other => other

def takeName (o : Options) (text : List Char) : Progress :=
  let name := String.ofList (text.takeWhile (· != '='))
  match names.lookup name, text.dropWhile (· != '=') with
  | some .output, [] => .wantsOutput
  | some .output, _ :: value => o.withOutput (String.ofList value)
  | some (.switch s), [] => o.withSwitch s
  | _, _ => .ended .refused

def take (o : Options) (argument : String) : Progress :=
  match argument.toList with
  | '-' :: '-' :: text => takeName o text
  | '-' :: c :: rest => takeLetters o (c :: rest)
  | _ => .ended .refused

def isOption (argument : String) : Bool :=
  match argument.toList with
  | '-' :: _ :: _ => true
  | _ => false

def read (o : Options) : List String → Request
  | [] => .run o
  | argument :: rest =>
    if argument = "--" then if rest.isEmpty then .run o else .refused
    else
      match take o argument with
      | .more o => read o rest
      | .ended r => r
      | .wantsOutput =>
        match rest with
        | [] => .refused
        | value :: rest =>
          if isOption value then .refused
          else
            match o.withOutput value with
            | .more o => read o rest
            | .ended r => r
            | .wantsOutput => .refused

/-! ### Running -/

structure Finish where
  code : Nat
  output : String
  messages : String
  files : FileTree

def description (units : List GenerationUnit) : String :=
  Json.pretty 2 (.array (units.map GenerationUnit.toJson)) ++ "\n"

def writtenMessage (count : Nat) (directory : String) : String :=
  "Generated " ++ String.ofList (Text.Decimal.digits count) ++ " files to " ++ directory ++ "\n"

def failedMessage (e : GeneratorError) : String := "Generation failed: " ++ e.message ++ "\n"

def usage : String :=
  "Usage: attrgen-gen [OPTIONS]\n\nOptions:\n" ++
  "  -o, --output <OUTPUT>  Output directory for generated code [default: " ++ defaultOutput ++
  "]\n      --dry-run          Print generated code without writing files\n" ++
  "      --describe         Print the descriptor tables as JSON and exit\n" ++
  "  -v, --verbose...       Increase verbosity (-v, -vv, -vvv)\n" ++
  "      --json             Emit logs as JSON\n  -h, --help             Print help\n" ++
  "  -V, --version          Print version\n"

def versionText : String := "attrgen-gen 0.1.0\n"

def execute (files : FileTree) (units : List GenerationUnit) (o : Options) : Finish :=
  if o.isDescription then ⟨0, description units, "", files⟩
  else
    let outcome := Artifact.generateInto files units o.directory o.isDryRun
    match outcome.result with
    | .error e => ⟨1, outcome.output, failedMessage e, outcome.files⟩
    | .ok artifacts =>
      let messages := if o.isDryRun then "" else writtenMessage artifacts.length o.directory
      ⟨0, outcome.output, messages, outcome.files⟩

def run (files : FileTree) (arguments : List String) : Finish :=
  match read .initial arguments with
  | .run o => execute files Bundled.Table.units o
  | .help => ⟨0, usage, "", files⟩
  | .version => ⟨0, versionText, "", files⟩
  | .refused => ⟨2, "", usage, files⟩

end AttributeSchema.CommandLine
