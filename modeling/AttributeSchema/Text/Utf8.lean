/-!
# UTF-8

Characters as bytes and back. Strict decoding refuses bytes that encode no text. Lossy decoding writes
one replacement character for each longest piece that could have started a character but does not go
on as one.
-/

namespace AttributeSchema.Text.Utf8

def encodeChar (c : Char) : List UInt8 := String.utf8EncodeChar c

def encode (s : List Char) : List UInt8 := s.flatMap encodeChar

def byteCount (s : List Char) : Nat := s.foldr (fun c n => c.utf8Size + n) 0

def isTail (b : UInt8) : Bool := 0x80 ≤ b && b ≤ 0xBF

/-- How many bytes a character has after this first one, and the bounds of the second byte; no
character starts with the other bytes. -/
def shape? (b : UInt8) : Option (Nat × UInt8 × UInt8) :=
  if b < 0x80 then some (0, 0, 0)
  else if b < 0xC2 then none
  else if b < 0xE0 then some (1, 0x80, 0xBF)
  else if b = 0xE0 then some (2, 0xA0, 0xBF)
  else if b = 0xED then some (2, 0x80, 0x9F)
  else if b < 0xF0 then some (2, 0x80, 0xBF)
  else if b = 0xF0 then some (3, 0x90, 0xBF)
  else if b < 0xF4 then some (3, 0x80, 0xBF)
  else if b = 0xF4 then some (3, 0x80, 0x8F)
  else none

def codePoint : List UInt8 → Nat
  | [a] => a.toNat
  | [a, b] => (a.toNat % 32) * 64 + b.toNat % 64
  | [a, b, c] => (a.toNat % 16) * 4096 + (b.toNat % 64) * 64 + c.toNat % 64
  | [a, b, c, d] =>
    (a.toNat % 8) * 262144 + (b.toNat % 64) * 4096 + (c.toNat % 64) * 64 + d.toNat % 64
  | _ => 0

/-- How many of the bytes go on with the character that the first byte starts, the first included,
and whether the character is complete. -/
def extent (b : UInt8) (rest : List UInt8) : Nat × Bool :=
  match shape? b with
  | none => (1, false)
  | some (0, _, _) => (1, true)
  | some (n + 1, low, high) =>
    match rest with
    | [] => (1, false)
    | second :: more =>
      if low ≤ second && second ≤ high then
        let tails := ((more.take n).takeWhile isTail).length
        (2 + tails, tails == n)
      else (1, false)

/-- Reads all characters; `replace` is what stands for a piece that is none. With no replacement such
a piece makes the whole reading fail. -/
def decodeWith (replace : Option Char) : Nat → List UInt8 → Option (List Char)
  | _, [] => some []
  | 0, _ :: _ => none
  | fuel + 1, b :: rest =>
    let (length, isComplete) := extent b rest
    let after := rest.drop (length - 1)
    if isComplete then
      (decodeWith replace fuel after).map (Char.ofNat (codePoint ((b :: rest).take length)) :: ·)
    else
      match replace with
      | none => none
      | some mark => (decodeWith replace fuel after).map (mark :: ·)

def decode? (bytes : List UInt8) : Option (List Char) := decodeWith none bytes.length bytes

/-- The text that the bytes encode, with replacement characters for what encodes none. -/
def decodeLossy (bytes : List UInt8) : List Char :=
  (decodeWith (some '\ufffd') bytes.length bytes).getD []

end AttributeSchema.Text.Utf8
