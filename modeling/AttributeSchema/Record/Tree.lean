import AttributeSchema.Record.Shape
/-!
# Reading holders from JSON trees

A holder is read from an object, whose entries are taken in their order and whose unknown keys are
passed over, or from an array with the attributes in order. Attributes that are not given are null.
-/

namespace AttributeSchema.Record.Tree

structure Reader (H : Type) where
  null : H
  /-- Reads the value at a key into a holder; an unknown key changes nothing. -/
  entry : String → Json.Value → H → Except String H
  /-- Reads the attributes in order from as many items as there are. -/
  items : List Json.Value → Except String H
  width : Nat

def Reader.entries {H : Type} (r : Reader H) (h : H) : List (String × Json.Value) → Except String H
  | [] => .ok h
  | (key, value) :: rest => do
    let h ← r.entry key value h
    r.entries h rest

def Reader.read {H : Type} (r : Reader H) (record : String) : Json.Value → Except String H
  | .object entries => r.entries r.null entries
  | .array items => do
    let h ← r.items items
    if items.length ≤ r.width then .ok h
    else .error ("invalid length " ++ String.ofList (Text.Decimal.digits items.length) ++
      ", expected fewer elements in array")
  | other => .error (Json.invalidType other ("struct " ++ record))

def Reader.readNullable {H : Type} (r : Reader H) (record : String) :
    Json.Value → Except String (Option H)
  | .null => .ok none
  | value => (r.read record value).map some

def Reader.readAll {H : Type} (r : Reader H) (record : String) :
    List Json.Value → Except String (List H)
  | [] => .ok []
  | value :: rest => do
    let first ← r.read record value
    let more ← r.readAll record rest
    .ok (first :: more)

def Reader.readList {H : Type} (r : Reader H) (record : String) :
    Json.Value → Except String (Option (List H))
  | .null => .ok none
  | .array items => (r.readAll record items).map some
  | other => .error (Json.invalidType other "a sequence")

def Reader.cons {α H : Type} (name : String) (read : Json.Value → Except String (Option α))
    (r : Reader H) : Reader (Option α × H) where
  null := (none, r.null)
  entry key value h :=
    if key = name then (read value).map fun first => (first, h.2)
    else (r.entry key value h.2).map fun more => (h.1, more)
  items
    | [] => .ok (none, r.null)
    | value :: rest => do
      let first ← read value
      let more ← r.items rest
      .ok (first, more)
  width := r.width + 1

def Reader.done : Reader Unit where
  null := ()
  entry _ _ h := .ok h
  items _ := .ok ()
  width := 0

def reader : (s : Shape) → Reader s.Holder
  | .done => .done
  | .leaf name conversion rest => .cons name conversion.type.ofTree (reader rest)
  | .untagged _ _ rest => reader rest
  | .nested name record inner rest => .cons name ((reader inner).readNullable record) (reader rest)
  | .optional name record inner rest => .cons name ((reader inner).readNullable record) (reader rest)
  | .list name record inner rest => .cons name ((reader inner).readList record) (reader rest)

end AttributeSchema.Record.Tree
