/-!
# Errors of generation
-/

namespace AttributeSchema

inductive GeneratorError
  | mapping (unit field declared : String)
  | emptySchema (unit type : String)
  | formatting (artifact reason : String)
  /-- Two types would generate the same schema function. -/
  | duplicateType (type first second : String)
  /-- A name or path cannot be spelled in source text. -/
  | invalidIdentifier (text context : String)
  | write (path reason : String)
  | configuration (reason : String)
  deriving DecidableEq, Repr, Inhabited

namespace GeneratorError

def message : GeneratorError → String
  | mapping unit field declared =>
    unit ++ ": missing type for field '" ++ field ++ "' (declared as " ++ declared ++ ")"
  | emptySchema unit type => unit ++ ": no attribute found for " ++ type
  | formatting artifact reason => "Generated code for '" ++ artifact ++ "' is invalid: " ++ reason
  | duplicateType type first second =>
    "Type '" ++ type ++ "' is declared by both '" ++ first ++ "' and '" ++ second ++ "'"
  | invalidIdentifier text context => "Invalid identifier '" ++ text ++ "' in " ++ context
  | write path reason => "Failed to write output file '" ++ path ++ "': " ++ reason
  | configuration reason => "Invalid configuration: " ++ reason

def unit? : GeneratorError → Option String
  | mapping unit _ _ => some unit
  | emptySchema unit _ => some unit
  | _ => none

end GeneratorError

end AttributeSchema
