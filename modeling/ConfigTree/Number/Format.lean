
namespace ConfigTree

/-- An IEEE 754 binary interchange format, given by the widths of its fraction and exponent fields.
-/
structure FloatFormat where
  fracBits : Nat
  expBits : Nat

/-- What a bit pattern stands for: a finite value `(-1)^neg * m * 2^q`, an infinity, or NaN. -/
inductive FloatClass where
  | nan
  | inf (neg : Bool)
  | finite (neg : Bool) (m : Nat) (q : Int)
deriving DecidableEq, Repr

/-- The number of decimal digits of `n`, `0` having none. -/
def decimalLength (n : Nat) : Nat :=
  if n < 10 then (if n == 0 then 0 else 1) else decimalLength (n / 10) + 1
termination_by n
decreasing_by omega

namespace FloatFormat

/-- The 64-bit format. -/
def binary64 : FloatFormat := ⟨52, 11⟩

/-- The 32-bit format. -/
def binary32 : FloatFormat := ⟨23, 8⟩

/-- The weight of the least significand unit of a subnormal number. -/
def minExp (f : FloatFormat) : Int := 2 - Int.pow 2 (f.expBits - 1) - f.fracBits

/-- The implicit leading bit of a normal significand. -/
def hidden (f : FloatFormat) : Nat := Nat.pow 2 f.fracBits

/-- The all-ones exponent field, which marks infinities and NaNs. -/
def topExp (f : FloatFormat) : Nat := Nat.pow 2 f.expBits - 1

/-- The sign bit. -/
def signBit (f : FloatFormat) : Nat := Nat.pow 2 (f.fracBits + f.expBits)

/-- Splits a bit pattern into the number it stands for. -/
def decode (f : FloatFormat) (bits : Nat) : FloatClass :=
  let neg := bits / f.signBit % 2 == 1
  let e := bits / f.hidden % Nat.pow 2 f.expBits
  let frac := bits % f.hidden
  if e == f.topExp then
    if frac == 0 then .inf neg else .nan
  else if e == 0 then .finite neg frac f.minExp
  else .finite neg (frac + f.hidden) (f.minExp + (e - 1 : Nat))

/-- The pattern of an infinity. -/
def infBits (f : FloatFormat) (neg : Bool) : Nat :=
  (if neg then f.signBit else 0) + f.topExp * f.hidden

/-- The pattern of the quiet NaN that arithmetic produces. -/
def nanBits (f : FloatFormat) : Nat := f.topExp * f.hidden + f.hidden / 2

/-- Whether `num / den` is at least `2 ^ b`. -/
def atLeastPow2 (num den : Nat) (b : Int) : Bool :=
  if 0 ≤ b then den * Nat.pow 2 b.toNat ≤ num else den ≤ num * Nat.pow 2 (-b).toNat

/-- The exponent `b` with `2 ^ b ≤ num / den < 2 ^ (b + 1)`, for `num` and `den` positive. -/
def binaryExponent (num den : Nat) : Int :=
  let b : Int := (num.log2 : Int) - den.log2
  if atLeastPow2 num den b then b else b - 1

/-- Packs a significand and exponent known to fit the format, or infinity when the exponent is past
the largest finite one. -/
def pack (f : FloatFormat) (neg : Bool) (m : Nat) (q : Int) : Nat :=
  let s := if neg then f.signBit else 0
  if m < f.hidden then s + m
  else
    let e := (q - f.minExp + 1).toNat
    if e ≥ f.topExp then f.infBits neg else s + e * f.hidden + (m - f.hidden)

/-- Rounds `num / den` to the nearest number of the format, a tie going to the even significand, and
gives its pattern with the sign `neg`. -/
def round (f : FloatFormat) (neg : Bool) (num den : Nat) : Nat :=
  if num == 0 || den == 0 then (if neg then f.signBit else 0)
  else
    let q := max (binaryExponent num den - f.fracBits) f.minExp
    let n := if 0 ≤ q then num else num * Nat.pow 2 (-q).toNat
    let d := if 0 ≤ q then den * Nat.pow 2 q.toNat else den
    let m := n / d
    let r := n % d
    let up := 2 * r > d || (2 * r == d && m % 2 == 1)
    let m := if up then m + 1 else m
    if m == 2 * f.hidden then f.pack neg f.hidden (q + 1) else f.pack neg m q

/-- The exact value `m * 2 ^ q` as a quotient of naturals. -/
def ratio (m : Nat) (q : Int) : Nat × Nat :=
  if 0 ≤ q then (m * Nat.pow 2 q.toNat, 1) else (m, Nat.pow 2 (-q).toNat)

/-- Re-encodes a number of one format in another, rounding to nearest when it does not fit. -/
def convert (source target : FloatFormat) (bits : Nat) : Nat :=
  match source.decode bits with
  | .nan => target.nanBits
  | .inf neg => target.infBits neg
  | .finite neg m q =>
    let (n, d) := ratio m q
    target.round neg n d

end FloatFormat

/-- A 64-bit binary floating-point number, held as its bit pattern. -/
structure Double where
  bits : UInt64
deriving DecidableEq, Inhabited, Repr

/-- A 32-bit binary floating-point number, held as its bit pattern. -/
structure Single where
  bits : UInt32
deriving DecidableEq, Inhabited, Repr

namespace Double

/-- What the number stands for. -/
def classify (x : Double) : FloatClass := FloatFormat.binary64.decode x.bits.toNat

/-- The nearest number to `±num / den`. -/
def ofRatio (neg : Bool) (num den : Nat) : Double :=
  ⟨(FloatFormat.binary64.round neg num den).toUInt64⟩

/-- The nearest number to an integer. -/
def ofInt (i : Int) : Double := ofRatio (i < 0) i.natAbs 1

/-- Positive or negative infinity. -/
def inf (neg : Bool) : Double := ⟨(FloatFormat.binary64.infBits neg).toUInt64⟩

/-- Whether the number is neither infinite nor NaN. -/
def isFinite (x : Double) : Bool :=
  match x.classify with
  | .finite .. => true
  | _ => false

/-- The nearest 32-bit number. -/
def toSingle (x : Double) : Single :=
  ⟨(FloatFormat.convert .binary64 .binary32 x.bits.toNat).toUInt32⟩

end Double

namespace Single

/-- What the number stands for. -/
def classify (x : Single) : FloatClass := FloatFormat.binary32.decode x.bits.toNat

/-- The nearest number to `±num / den`. -/
def ofRatio (neg : Bool) (num den : Nat) : Single :=
  ⟨(FloatFormat.binary32.round neg num den).toUInt32⟩

/-- The nearest number to an integer. -/
def ofInt (i : Int) : Single := ofRatio (i < 0) i.natAbs 1

/-- The same number in the 64-bit format, where every 32-bit number is exact. -/
def toDouble (x : Single) : Double :=
  ⟨(FloatFormat.convert .binary32 .binary64 x.bits.toNat).toUInt64⟩

end Single

end ConfigTree
