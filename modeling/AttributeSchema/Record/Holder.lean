import AttributeSchema.Diagnostic
import AttributeSchema.Record.Shape
/-!
# Filling and reading holders

A holder is filled from a native record, and written onto one: every attribute that is not null replaces
the field it belongs to. At the first attribute that does not convert, writing the record stops with a
diagnostic. A holder is a JSON object with one entry for each attribute.
-/

namespace AttributeSchema.Shape

def encode : (s : Shape) → s.Native → s.Holder
  | done, _ => ()
  | leaf _ conversion rest, (value, more) => (some (conversion.ofNative value), rest.encode more)
  | untagged _ _ rest, (_, more) => rest.encode more
  | nested _ _ inner rest, (value, more) => (some (inner.encode value), rest.encode more)
  | optional _ _ inner rest, (value, more) => (value.map inner.encode, rest.encode more)
  | list _ _ inner rest, (values, more) => (some (values.map inner.encode), rest.encode more)

def conversionFailure (name detail : String) : Diagnostic :=
  ⟨.error, "Failed to convert " ++ name, detail⟩

/-- Writes the attributes of a holder that are not null onto a native record. -/
def decodeInto : (s : Shape) → s.Holder → s.Native → s.Native × Diagnostics
  | done, _, target => (target, [])
  | leaf name conversion rest, (value, more), (old, others) =>
    match value with
    | none => ((old, (rest.decodeInto more others).1), (rest.decodeInto more others).2)
    | some value =>
      match conversion.toNative value with
      | .ok new => ((new, (rest.decodeInto more others).1), (rest.decodeInto more others).2)
      | .error detail => ((old, others), [conversionFailure name detail])
  | untagged _ _ rest, more, (old, others) =>
    ((old, (rest.decodeInto more others).1), (rest.decodeInto more others).2)
  | nested _ _ inner rest, (value, more), (old, others) =>
    match value with
    | none => ((old, (rest.decodeInto more others).1), (rest.decodeInto more others).2)
    | some value =>
      (((inner.decodeInto value old).1, (rest.decodeInto more others).1),
        (inner.decodeInto value old).2 ++ (rest.decodeInto more others).2)
  | optional _ _ inner rest, (value, more), (old, others) =>
    match value with
    | none => ((old, (rest.decodeInto more others).1), (rest.decodeInto more others).2)
    | some value =>
      let target := old.getD inner.initial
      ((some (inner.decodeInto value target).1, (rest.decodeInto more others).1),
        (inner.decodeInto value target).2 ++ (rest.decodeInto more others).2)
  | list _ _ inner rest, (values, more), (old, others) =>
    match values with
    | none => ((old, (rest.decodeInto more others).1), (rest.decodeInto more others).2)
    | some values =>
      let items := values.map fun value => inner.decodeInto value inner.initial
      ((items.map (·.1), (rest.decodeInto more others).1),
        items.flatMap (·.2) ++ (rest.decodeInto more others).2)

def entries : (s : Shape) → s.Holder → List (String × Json.Value)
  | done, _ => []
  | leaf name conversion rest, (value, more) =>
    (name, conversion.type.toJson value) :: rest.entries more
  | untagged _ _ rest, more => rest.entries more
  | nested name _ inner rest, (value, more) =>
    (name, (value.map fun h => .object (inner.entries h)).getD .null) :: rest.entries more
  | optional name _ inner rest, (value, more) =>
    (name, (value.map fun h => .object (inner.entries h)).getD .null) :: rest.entries more
  | list name _ inner rest, (values, more) =>
    (name, (values.map fun hs => .array (hs.map fun h => .object (inner.entries h))).getD .null) ::
      rest.entries more

def toJson (s : Shape) (h : s.Holder) : Json.Value := .object (s.entries h)

end AttributeSchema.Shape
