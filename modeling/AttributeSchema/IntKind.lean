/-!
# Integer kinds

The widths and signs of native integers.
-/

namespace AttributeSchema

/-- The width and sign of an integer; the last of each sign is as wide as a pointer. -/
inductive IntKind
  | i8
  | i16
  | i32
  | i64
  | isize
  | u8
  | u16
  | u32
  | u64
  | usize
  deriving DecidableEq, Repr, Inhabited

namespace IntKind

def name : IntKind → String
  | i8 => "i8"
  | i16 => "i16"
  | i32 => "i32"
  | i64 => "i64"
  | isize => "isize"
  | u8 => "u8"
  | u16 => "u16"
  | u32 => "u32"
  | u64 => "u64"
  | usize => "usize"

def all : List IntKind := [i8, i16, i32, i64, isize, u8, u16, u32, u64, usize]

def ofName? (text : String) : Option IntKind := all.find? fun kind => kind.name == text

@[simp] theorem ofName?_name (kind : IntKind) : ofName? kind.name = some kind := by
  cases kind <;> decide

def isPointerSized : IntKind → Bool
  | isize => true
  | usize => true
  | _ => false

/-- The number of bits; pointers have 64. -/
def bits : IntKind → Nat
  | i8 => 8
  | i16 => 16
  | i32 => 32
  | u8 => 8
  | u16 => 16
  | u32 => 32
  | _ => 64

def isSigned : IntKind → Bool
  | i8 => true
  | i16 => true
  | i32 => true
  | i64 => true
  | isize => true
  | _ => false

def least (kind : IntKind) : Int :=
  if kind.isSigned then -(Nat.pow 2 (kind.bits - 1) : Nat) else 0

def greatest (kind : IntKind) : Int :=
  (Nat.pow 2 (if kind.isSigned then kind.bits - 1 else kind.bits) : Nat) - 1

theorem least_nonpos (kind : IntKind) : kind.least ≤ 0 := by cases kind <;> decide

theorem greatest_nonneg (kind : IntKind) : 0 ≤ kind.greatest := by cases kind <;> decide

/-- Every kind fits into 128 bits. -/
theorem least_lower (kind : IntKind) :
    -0x8000_0000_0000_0000_0000_0000_0000_0000 ≤ kind.least := by
  cases kind <;> decide

theorem greatest_upper (kind : IntKind) :
    kind.greatest < 0x8000_0000_0000_0000_0000_0000_0000_0000 := by
  cases kind <;> decide

end IntKind

structure Sized (kind : IntKind) where
  value : Int
  lower : kind.least ≤ value
  upper : value ≤ kind.greatest
  deriving DecidableEq

namespace Sized

variable {kind : IntKind}

def zero : Sized kind := ⟨0, kind.least_nonpos, kind.greatest_nonneg⟩

instance : Inhabited (Sized kind) := ⟨zero⟩

def ofInt? (n : Int) : Option (Sized kind) :=
  if h : kind.least ≤ n ∧ n ≤ kind.greatest then some ⟨n, h.1, h.2⟩ else none

end Sized

end AttributeSchema
