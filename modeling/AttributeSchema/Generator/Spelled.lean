import AttributeSchema.Generator.Error
import AttributeSchema.Source.Parser
/-!
# Names and paths that source text can spell

Every name and path that enters generated text is read first; one that cannot be read is an error that
says where the text was needed.
-/

namespace AttributeSchema.Spelled

open Source (Ty Path Parser.ident? Parser.type? Parser.path?)

/-- What was read from a text, or that the text cannot be read. -/
def require {α : Type} (text context : String) : Option α → Except GeneratorError α
  | some value => .ok value
  | none => .error (.invalidIdentifier text context)

def identifier (text context : String) : Except GeneratorError String :=
  require text context (Parser.ident? text)

def type (text context : String) : Except GeneratorError Ty :=
  require text context (Parser.type? text)

def path (text context : String) : Except GeneratorError Path :=
  require text context (Parser.path? text)

end AttributeSchema.Spelled
