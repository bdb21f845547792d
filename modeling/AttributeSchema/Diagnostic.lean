/-!
# Diagnostics

What decoding reports: errors and warnings in the order in which they arose.
-/

namespace AttributeSchema

inductive Severity
  | error
  | warning
  deriving DecidableEq, Repr, Inhabited

def Severity.name : Severity → String
  | error => "error"
  | warning => "warning"

/-- A diagnostic: a short summary and what it is about. -/
structure Diagnostic where
  severity : Severity
  summary : String
  detail : String
  deriving DecidableEq, Repr, Inhabited

def Diagnostic.isError (d : Diagnostic) : Bool := d.severity == .error

def Diagnostic.text (d : Diagnostic) : String :=
  d.severity.name ++ ": " ++ d.summary ++ ": " ++ d.detail

abbrev Diagnostics := List Diagnostic

namespace Diagnostics

def hasError (ds : Diagnostics) : Bool := ds.any Diagnostic.isError

def errors (ds : Diagnostics) : Diagnostics := ds.filter Diagnostic.isError

def text (ds : Diagnostics) : String := String.intercalate "\n" (ds.map Diagnostic.text)

end Diagnostics

end AttributeSchema
