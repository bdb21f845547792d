import AttributeSchema.Acceptance.Error
import AttributeSchema.Text.Utf8
/-!
# Replaying and recording

A run replays what has been recorded, unless a flag asks for a new recording.
-/

namespace AttributeSchema

inductive RunMode
  | replay
  | record
  deriving DecidableEq, Repr, Inhabited

namespace RunMode

def recordWords : List String := ["1", "t", "T", "true", "TRUE", "True"]

/-- The values of the flag that ask for replaying; no value is one of them. -/
def replayWords : List String := ["", "0", "f", "F", "false", "FALSE", "False"]

def parse (value : String) : Except AcceptanceError RunMode :=
  if recordWords.contains value then .ok .record
  else if replayWords.contains value then .ok .replay
  else .error (.invalidFlag value)

def ofFlag : Option (List UInt8) → Except AcceptanceError RunMode
  | none => .ok .replay
  | some bytes =>
    match Text.Utf8.decode? bytes with
    | some value => parse (String.ofList value)
    | none => .error (.invalidFlag (String.ofList (Text.Utf8.decodeLossy bytes)))

end RunMode

end AttributeSchema
