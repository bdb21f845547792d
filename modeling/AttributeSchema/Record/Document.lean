import AttributeSchema.Record.Shape
/-!
# Reading holders from JSON text

A holder is read from an object, whose unknown keys are passed over and whose known keys may come once,
or from an array with the attributes in order. Attributes that are not given are null.
-/

namespace AttributeSchema.Record.Document

open Json (Reading skipSpaces)
open Json.Failure (here behind)

structure Reader (H : Type) where
  null : H
  names : List String
  /-- Reads the value at a known key into a holder. -/
  entry : String → H → List Char → Reading H
  /-- Reads the attributes in order from the items of an array, and tells whether its end was read. -/
  items : Bool → List Char → Reading (H × Bool)

/-- The fault of a key that comes a second time. It is placed behind the end of the object if that
follows, else behind the blanks after the key. -/
def duplicate (key : String) (s : List Char) : Json.Failure :=
  let message := "duplicate field \x60" ++ key ++ "\x60"
  match skipSpaces s with
  | '}' :: rest => here message rest
  | other => here message other

/-- Reads the entries of an object up to its end, after the keys that were already seen. -/
def Reader.entries {H : Type} (r : Reader H) (isFirst : Bool) (seen : List String) (h : H) :
    Nat → List Char → Reading H
  | 0, s => .error (here "recursion limit exceeded" s)
  | fuel + 1, s =>
    match Json.nextKey isFirst s with
    | .error e => .error e
    | .ok (false, rest) => .ok (h, rest)
    | .ok (true, rest) =>
      match Json.stringText rest with
      | .error e => .error e
      | .ok (key, rest) =>
        if key ∈ r.names then
          if key ∈ seen then .error (duplicate key rest)
          else
            match Json.colon rest with
            | .error e => .error e
            | .ok (_, rest) =>
              match r.entry key h rest with
              | .error e => .error e
              | .ok (h, rest) => r.entries false (key :: seen) h fuel rest
        else
          match Json.colon rest with
          | .error e => .error e
          | .ok (_, rest) =>
            match Json.skip rest with
            | .error e => .error e
            | .ok (_, rest) => r.entries false seen h fuel rest

def arrayEnd (s : List Char) : Reading Unit :=
  match skipSpaces s with
  | ']' :: rest => .ok ((), rest)
  | ',' :: rest =>
    match skipSpaces rest with
    | ']' :: more => .error (behind "trailing comma" (']' :: more))
    | other => .error (behind "trailing characters" other)
  | [] => .error (here "EOF while parsing a list" [])
  | other => .error (behind "trailing characters" other)

def Reader.read {H : Type} (r : Reader H) (record : String) (s : List Char) : Reading H :=
  match skipSpaces s with
  | '{' :: rest => r.entries true [] r.null (rest.length + 1) rest
  | '[' :: rest =>
    match r.items true rest with
    | .error e => .error e
    | .ok ((h, true), rest) => .ok (h, rest)
    | .ok ((h, false), rest) => (arrayEnd rest).map fun (_, rest) => (h, rest)
  | other => .error (Json.mismatch ("struct " ++ record) other)

def nullable {α : Type} (read : List Char → Reading α) (s : List Char) : Reading (Option α) :=
  match skipSpaces s with
  | 'n' :: rest => (Json.word ['u', 'l', 'l'] rest).map fun (_, rest) => (none, rest)
  | other => (read other).map fun (value, rest) => (some value, rest)

def Reader.readAll {H : Type} (r : Reader H) (record : String) (isFirst : Bool) :
    Nat → List Char → Reading (List H)
  | 0, s => .error (here "recursion limit exceeded" s)
  | fuel + 1, s =>
    match Json.nextItem isFirst s with
    | .error e => .error e
    | .ok (false, rest) => .ok ([], rest)
    | .ok (true, rest) =>
      match r.read record rest with
      | .error e => .error e
      | .ok (h, rest) => (r.readAll record false fuel rest).map fun (more, rest) => (h :: more, rest)

/-- Reads a list of holders, its blanks already passed over. -/
def Reader.readList {H : Type} (r : Reader H) (record : String) (s : List Char) : Reading (List H) :=
  match s with
  | '[' :: rest => r.readAll record true (rest.length + 1) rest
  | _ => .error (Json.mismatch "a sequence" s)

def Reader.cons {α H : Type} (name : String) (read : List Char → Reading (Option α)) (r : Reader H) :
    Reader (Option α × H) where
  null := (none, r.null)
  names := name :: r.names
  entry key h s :=
    if key = name then (read s).map fun (first, rest) => ((first, h.2), rest)
    else (r.entry key h.2 s).map fun (more, rest) => ((h.1, more), rest)
  items isFirst s :=
    match Json.nextItem isFirst s with
    | .error e => .error e
    | .ok (false, rest) => .ok (((none, r.null), true), rest)
    | .ok (true, rest) =>
      match read rest with
      | .error e => .error e
      | .ok (first, rest) =>
        (r.items false rest).map fun ((more, ended), rest) => (((first, more), ended), rest)

def Reader.done : Reader Unit where
  null := ()
  names := []
  entry _ h s := .ok (h, s)
  items _ s := .ok (((), false), s)

def reader : (s : Shape) → Reader s.Holder
  | .done => .done
  | .leaf name conversion rest => .cons name conversion.type.read (reader rest)
  | .untagged _ _ rest => reader rest
  | .nested name record inner rest => .cons name (nullable ((reader inner).read record)) (reader rest)
  | .optional name record inner rest => .cons name (nullable ((reader inner).read record)) (reader rest)
  | .list name record inner rest => .cons name (nullable ((reader inner).readList record)) (reader rest)

def Reader.ofText {H : Type} (r : Reader H) (record : String) (text : String) : Except String H :=
  Json.whole (r.read record) text.toList

end AttributeSchema.Record.Document
