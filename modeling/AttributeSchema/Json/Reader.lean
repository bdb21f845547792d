import AttributeSchema.SortedMap
import AttributeSchema.Text.Quoted
import AttributeSchema.Json.Printer
import AttributeSchema.Json.Scan
/-!
# Reading JSON values

A value is read from the front of the remaining characters: as a tree, or only passed over. Where
something else was expected than what stands there, the fault names both.
-/

namespace AttributeSchema.Json

open Failure (here behind)

/-! ### Entries and items -/

def nextItem (isFirst : Bool) (s : List Char) : Reading Bool :=
  match skipSpaces s with
  | [] => .error (here "EOF while parsing a list" [])
  | ']' :: rest => .ok (false, rest)
  | c :: rest =>
    if isFirst then .ok (true, c :: rest)
    else if c = ',' then
      match skipSpaces rest with
      | [] => .error (here "EOF while parsing a value" [])
      | ']' :: more => .error (behind "trailing comma" (']' :: more))
      | more => .ok (true, more)
    else .error (behind "expected \x60,\x60 or \x60]\x60" (c :: rest))

/-- Moves to the next key of an object, its opening quote included, or past the end of the object. -/
def nextKey (isFirst : Bool) (s : List Char) : Reading Bool :=
  match skipSpaces s with
  | [] => .error (here "EOF while parsing an object" [])
  | '}' :: rest => .ok (false, rest)
  | c :: rest =>
    if isFirst then
      if c = '"' then .ok (true, rest) else .error (behind "key must be a string" (c :: rest))
    else if c = ',' then
      match skipSpaces rest with
      | [] => .error (here "EOF while parsing a value" [])
      | '"' :: more => .ok (true, more)
      | '}' :: more => .error (behind "trailing comma" ('}' :: more))
      | more => .error (behind "key must be a string" more)
    else .error (behind "expected \x60,\x60 or \x60\x7d\x60" (c :: rest))

def colon (s : List Char) : Reading Unit :=
  match skipSpaces s with
  | [] => .error (here "EOF while parsing an object" [])
  | ':' :: rest => .ok ((), rest)
  | other => .error (behind "expected \x60:\x60" other)

def ending (s : List Char) : Except Failure Unit :=
  match skipSpaces s with
  | [] => .ok ()
  | rest => .error (behind "trailing characters" rest)

/-! ### Passing over values -/

mutual
/-- Passes over a value, of which no more is checked than its form. -/
def skipValue : Nat → List Char → Reading Unit
  | 0, s => .error (here "recursion limit exceeded" s)
  | fuel + 1, s =>
    match skipSpaces s with
    | [] => .error (here "EOF while parsing a value" [])
    | 'n' :: rest => word ['u', 'l', 'l'] rest
    | 't' :: rest => word ['r', 'u', 'e'] rest
    | 'f' :: rest => word ['a', 'l', 's', 'e'] rest
    | '-' :: rest => skipNumber rest
    | '"' :: rest => skipString (rest.length + 1) rest
    | '[' :: rest =>
      match skipSpaces rest with
      | ']' :: more => .ok ((), more)
      | [] => .error (here "EOF while parsing a list" [])
      | more => skipItems fuel more
    | '{' :: rest =>
      match skipSpaces rest with
      | '}' :: more => .ok ((), more)
      | [] => .error (here "EOF while parsing an object" [])
      | more => skipEntries fuel more
    | c :: rest =>
      if c.isDigit then skipNumber (c :: rest) else .error (behind "expected value" (c :: rest))

def skipItems : Nat → List Char → Reading Unit
  | 0, s => .error (here "recursion limit exceeded" s)
  | fuel + 1, s =>
    match skipValue fuel s with
    | .error e => .error e
    | .ok (_, rest) =>
      match skipSpaces rest with
      | [] => .error (here "EOF while parsing a list" [])
      | ']' :: more => .ok ((), more)
      | ',' :: more => skipItems fuel more
      | other => .error (behind "expected \x60,\x60 or \x60]\x60" other)

def skipEntries : Nat → List Char → Reading Unit
  | 0, s => .error (here "recursion limit exceeded" s)
  | fuel + 1, s =>
    match skipSpaces s with
    | [] => .error (here "EOF while parsing an object" [])
    | '"' :: rest =>
      match skipString (rest.length + 1) rest with
      | .error e => .error e
      | .ok (_, rest) =>
        match colon rest with
        | .error e => .error e
        | .ok (_, rest) =>
          match skipValue fuel rest with
          | .error e => .error e
          | .ok (_, rest) =>
            match skipSpaces rest with
            | [] => .error (here "EOF while parsing an object" [])
            | '}' :: more => .ok ((), more)
            | ',' :: more => skipEntries fuel more
            | other => .error (behind "expected \x60,\x60 or \x60\x7d\x60" other)
    | other => .error (behind "key must be a string" other)
end

def fuelFor (s : List Char) : Nat := 2 * s.length + 2

def skip (s : List Char) : Reading Unit := skipValue (fuelFor s) s

/-! ### Values of another type than expected -/

/-- A value named in a message: its kind, and what it is if that is short. -/
def found : Value → String
  | .null => "null"
  | .bool b => "boolean \x60" ++ (if b then "true" else "false") ++ "\x60"
  | .integer n => "integer \x60" ++ String.ofList (integerText n) ++ "\x60"
  | .float x => "floating point \x60" ++ x.text ++ "\x60"
  | .string s => "string " ++ Text.quoted s
  | .array _ => "sequence"
  | .object _ => "map"

def invalidType (value : Value) (wanted : String) : String :=
  "invalid type: " ++ found value ++ ", expected " ++ wanted

/-- The fault of a value, after its blanks, that is not of the expected type. Arrays and objects are
not looked into. -/
def mismatch (wanted : String) (s : List Char) : Failure :=
  let after (value : Value) : Reading Unit → Failure
    | .ok (_, rest) => here (invalidType value wanted) rest
    | .error e => e
  let numeral (negative : Bool) (s : List Char) : Failure :=
    match number negative s with
    | .ok (.integer n, rest) => here (invalidType (.integer n) wanted) rest
    | .ok (.float x, rest) => here (invalidType (.float x) wanted) rest
    | .error e => e
  match s with
  | 'n' :: rest => after .null (word ['u', 'l', 'l'] rest)
  | 't' :: rest => after (.bool true) (word ['r', 'u', 'e'] rest)
  | 'f' :: rest => after (.bool false) (word ['a', 'l', 's', 'e'] rest)
  | '-' :: rest => numeral true rest
  | '"' :: rest =>
    match stringText rest with
    | .ok (text, rest) => here (invalidType (.string text) wanted) rest
    | .error e => e
  | '[' :: _ => here (invalidType (.array []) wanted) s
  | '{' :: _ => here (invalidType (.object []) wanted) s
  | c :: _ => if c.isDigit then numeral false s else behind "expected value" s
  | [] => here "EOF while parsing a value" []

/-! ### Trees -/

mutual
def tree : Nat → List Char → Reading Value
  | 0, s => .error (here "recursion limit exceeded" s)
  | fuel + 1, s =>
    let leaf (value : Value) (r : Reading Unit) : Reading Value :=
      r.map fun (_, rest) => (value, rest)
    let numeral (negative : Bool) (s : List Char) : Reading Value :=
      (number negative s).map fun
        | (.integer n, rest) => (.integer n, rest)
        | (.float x, rest) => (.float x, rest)
    match skipSpaces s with
    | [] => .error (here "EOF while parsing a value" [])
    | 'n' :: rest => leaf .null (word ['u', 'l', 'l'] rest)
    | 't' :: rest => leaf (.bool true) (word ['r', 'u', 'e'] rest)
    | 'f' :: rest => leaf (.bool false) (word ['a', 'l', 's', 'e'] rest)
    | '-' :: rest => numeral true rest
    | '"' :: rest => (stringText rest).map fun (text, rest) => (.string text, rest)
    | '[' :: rest => (treeItems true fuel rest).map fun (items, rest) => (.array items, rest)
    | '{' :: rest => (treeEntries true [] fuel rest).map fun (entries, rest) => (.object entries, rest)
    | c :: rest =>
      if c.isDigit then numeral false (c :: rest)
      else .error (behind "expected value" (c :: rest))

def treeItems (isFirst : Bool) : Nat → List Char → Reading (List Value)
  | 0, s => .error (here "recursion limit exceeded" s)
  | fuel + 1, s =>
    match nextItem isFirst s with
    | .error e => .error e
    | .ok (false, rest) => .ok ([], rest)
    | .ok (true, rest) =>
      match tree fuel rest with
      | .error e => .error e
      | .ok (value, rest) =>
        (treeItems false fuel rest).map fun (more, rest) => (value :: more, rest)

/-- Reads the entries of an object up to its end; a later one replaces an earlier one at its key. -/
def treeEntries (isFirst : Bool) (entries : List (String × Value)) :
    Nat → List Char → Reading (List (String × Value))
  | 0, s => .error (here "recursion limit exceeded" s)
  | fuel + 1, s =>
    match nextKey isFirst s with
    | .error e => .error e
    | .ok (false, rest) => .ok (entries, rest)
    | .ok (true, rest) =>
      match stringText rest with
      | .error e => .error e
      | .ok (key, rest) =>
        match colon rest with
        | .error e => .error e
        | .ok (_, rest) =>
          match tree fuel rest with
          | .error e => .error e
          | .ok (value, rest) => treeEntries false (SortedMap.insertInto key value entries) fuel rest
end

def Value.ofText? (text : String) : Option Value :=
  match tree (fuelFor text.toList) text.toList with
  | .ok (value, rest) => (ending rest).toOption.map fun _ => value
  | .error _ => none

end AttributeSchema.Json
