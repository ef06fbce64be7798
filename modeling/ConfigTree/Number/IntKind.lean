import ConfigTree.Number.Format

namespace ConfigTree

/-- The integer kinds a configuration value can be read as. -/
inductive IntKind where
  | i8 | i16 | i32 | i64 | i128 | isize
  | u8 | u16 | u32 | u64 | u128 | usize
deriving DecidableEq, Repr, Inhabited

namespace IntKind

/-- The width in bits. -/
def bits : IntKind → Nat
  | .i8 | .u8 => 8
  | .i16 | .u16 => 16
  | .i32 | .u32 => 32
  | .i64 | .u64 | .isize | .usize => 64
  | .i128 | .u128 => 128

/-- Whether the kind holds negative numbers. -/
def signed : IntKind → Bool
  | .i8 | .i16 | .i32 | .i64 | .i128 | .isize => true
  | _ => false

/-- The name of the kind. -/
def name : IntKind → String
  | .i8 => "i8" | .i16 => "i16" | .i32 => "i32" | .i64 => "i64" | .i128 => "i128"
  | .isize => "isize" | .u8 => "u8" | .u16 => "u16" | .u32 => "u32" | .u64 => "u64"
  | .u128 => "u128" | .usize => "usize"

/-- Every kind, in a fixed order. -/
def all : List IntKind := [.i8, .i16, .i32, .i64, .i128, .isize, .u8, .u16, .u32, .u64, .u128, .usize]

/-- The kind of a name. -/
def ofName? (s : String) : Option IntKind := all.find? (·.name == s)

/-- The least value of the kind. -/
def min (k : IntKind) : Int := if k.signed then -((Nat.pow 2 (k.bits - 1) : Nat) : Int) else 0

/-- The greatest value of the kind. -/
def max (k : IntKind) : Int :=
  if k.signed then ((Nat.pow 2 (k.bits - 1) - 1 : Nat) : Int) else ((Nat.pow 2 k.bits - 1 : Nat) : Int)

/-- Whether `i` is a value of the kind. -/
def holds (k : IntKind) (i : Int) : Bool := k.min ≤ i && i ≤ k.max

/-- The value of the kind congruent to `i` modulo `2 ^ bits`. -/
def wrap (k : IntKind) (i : Int) : Int :=
  let m := i % ((Nat.pow 2 k.bits : Nat) : Int)
  if k.signed && m ≥ ((Nat.pow 2 (k.bits - 1) : Nat) : Int) then m - ((Nat.pow 2 k.bits : Nat) : Int) else m

/-- The integer part of a binary number, rounded toward zero, then held within the kind's bounds;
NaN gives zero. -/
def ofFloat (k : IntKind) : FloatClass → Int
  | .nan => 0
  | .inf neg => if neg then k.min else k.max
  | .finite neg m q =>
    let (n, d) := FloatFormat.ratio m q
    let t : Int := if neg then -((n / d : Nat) : Int) else ((n / d : Nat) : Int)
    if t < k.min then k.min else if t > k.max then k.max else t

end IntKind

end ConfigTree
