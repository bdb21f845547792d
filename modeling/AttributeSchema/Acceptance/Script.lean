import AttributeSchema.Acceptance.Step
/-!
# Scripted systems

A system that gives prepared answers, one after the other, and keeps what it was asked to do.
-/

namespace AttributeSchema

/-- The answers that are left, and the requests so far, last one first. -/
structure Script where
  answers : List (Except String State)
  requests : List (Action × String)

namespace Script

def system : System Script where
  perform action config s :=
    match s.answers with
    | [] => (.error "script exhausted", ⟨[], (action, config) :: s.requests⟩)
    | answer :: rest => (answer, ⟨rest, (action, config) :: s.requests⟩)

end Script

end AttributeSchema
