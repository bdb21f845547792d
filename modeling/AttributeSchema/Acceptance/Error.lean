import AttributeSchema.Files.FileTree
import AttributeSchema.Text.Decimal
/-!
# Errors of acceptance runs
-/

namespace AttributeSchema

inductive AcceptanceError
  /-- The flag that asks for recording is no truth value. -/
  | invalidFlag (value : String)
  | noFixtures (directory : String)
  | files (path : String) (error : FileError)
  | snapshot (path detail : String)
  /-- The error that a fixture expects is not described by a pattern. -/
  | pattern (path : String)
  /-- The system failed where success was expected. -/
  | system (message : String)
  | missingError (wanted : String)
  | unexpectedError (wanted message : String)
  | checksFailed (failures : List String)
  deriving DecidableEq, Repr, Inhabited

namespace AcceptanceError

def flagName : String := "TF_TEST_RECORD"

def message : AcceptanceError → String
  | invalidFlag value =>
    "Invalid value '" ++ value ++ "' for " ++ flagName ++ ": expected 1, 0, true, false, t or f"
  | noFixtures directory => "No fixture found in " ++ directory
  | files path error => "Failed to access '" ++ path ++ "': " ++ error.message
  | snapshot path detail => "Invalid snapshot '" ++ path ++ "': " ++ detail
  | pattern path => "Invalid error pattern in '" ++ path ++ "'"
  | system message => "Driver failed: " ++ message
  | missingError wanted => "Expected an error matching '" ++ wanted ++ "', got none"
  | unexpectedError wanted message =>
    "Expected an error matching '" ++ wanted ++ "', got: " ++ message
  | checksFailed failures =>
    String.ofList (Text.Decimal.digits failures.length) ++ " check(s) failed:\n" ++
      String.intercalate "\n" failures

end AcceptanceError

end AttributeSchema
