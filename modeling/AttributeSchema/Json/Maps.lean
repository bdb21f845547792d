import AttributeSchema.Json.Reader
/-!
# Objects as maps

An object whose values are all of one kind is read as a map. A later value at a key replaces an earlier
one.
-/

namespace AttributeSchema.Json

open Failure (here)

def mapEntries {α : Type} (read : List Char → Reading α) (isFirst : Bool) (m : SortedMap α) :
    Nat → List Char → Reading (SortedMap α)
  | 0, s => .error (here "recursion limit exceeded" s)
  | fuel + 1, s =>
    match nextKey isFirst s with
    | .error e => .error e
    | .ok (false, rest) => .ok (m, rest)
    | .ok (true, rest) =>
      match stringText rest with
      | .error e => .error e
      | .ok (key, rest) =>
        match colon rest with
        | .error e => .error e
        | .ok (_, rest) =>
          match read rest with
          | .error e => .error e
          | .ok (value, rest) => mapEntries read false (m.insert key value) fuel rest

def mapOf {α : Type} (read : List Char → Reading α) (s : List Char) : Reading (SortedMap α) :=
  match skipSpaces s with
  | '{' :: rest => mapEntries read true .empty (rest.length + 1) rest
  | other => .error (mismatch "a map" other)

def text (s : List Char) : Reading String :=
  match skipSpaces s with
  | '"' :: rest => stringText rest
  | other => .error (mismatch "a string" other)

def whole {α : Type} (read : List Char → Reading α) (s : List Char) : Except String α :=
  match read s with
  | .error e => .error (e.describe s)
  | .ok (value, rest) =>
    match ending rest with
    | .ok _ => .ok value
    | .error e => .error (e.describe s)

end AttributeSchema.Json
