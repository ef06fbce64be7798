import ConfigTree.Number.Format

namespace ConfigTree

/-- Which of two decimals equally near a number is taken. -/
inductive Tie where
  | up
  | even
deriving DecidableEq, Repr, Inhabited

/-- A decimal `digits * 10 ^ exp`. -/
structure Decimal where
  digits : Nat
  exp : Int
deriving DecidableEq, Repr

namespace Decimal

/-- Strips trailing zero digits into the exponent. -/
def normalize (d : Decimal) : Decimal :=
  if d.digits == 0 then ⟨0, 0⟩
  else if d.digits % 10 == 0 then normalize ⟨d.digits / 10, d.exp + 1⟩
  else d
termination_by d.digits
decreasing_by
  have : d.digits ≠ 0 := by simpa using ‹¬(d.digits == 0) = true›
  omega

end Decimal

/-- Compares `x * 2 ^ a` with `d * 10 ^ k` exactly. -/
def compareBinDec (x : Nat) (a : Int) (d : Nat) (k : Int) : Ordering :=
  let lhs := x * Nat.pow 2 a.toNat * Nat.pow 10 (-k).toNat
  let rhs := d * Nat.pow 10 k.toNat * Nat.pow 2 (-a).toNat
  compare lhs rhs

/-- `⌊x * 2 ^ a / 10 ^ k⌋`. -/
def floorBinDec (x : Nat) (a k : Int) : Nat :=
  x * Nat.pow 2 a.toNat * Nat.pow 10 (-k).toNat / (Nat.pow 10 k.toNat * Nat.pow 2 (-a).toNat)

/-- The exponent `e` with `10 ^ e ≤ m * 2 ^ q < 10 ^ (e + 1)`, for `m` positive. -/
def decimalExponent (m : Nat) (q : Int) : Int :=
  let num := m * Nat.pow 2 q.toNat
  let den := Nat.pow 2 (-q).toNat
  if den ≤ num then (decimalLength (num / den) : Int) - 1
  else -(decimalLength ((den + num - 1) / num - 1) : Int)

/-- The shortest decimal inside the rounding interval of the positive number `m * 2 ^ q` of the
format `f`, the nearer one when a grid holds two, and the one `tie` picks when both are equally
near. -/
def shortestDigits (f : FloatFormat) (tie : Tie) (m : Nat) (q : Int) : Decimal :=
  -- the interval is [4m - lowGap, 4m + 2] in units of 2 ^ (q - 2)
  let lowGap := if m == f.hidden && q > f.minExp then 1 else 2
  let inclusive := m % 2 == 0
  let a := q - 2
  let inside (d : Nat) (k : Int) : Bool :=
    let lo := compareBinDec (4 * m - lowGap) a d k
    let hi := compareBinDec (4 * m + 2) a d k
    (lo == .lt || (inclusive && lo == .eq)) && (hi == .gt || (inclusive && hi == .eq))
  let e := decimalExponent m q
  let attempt (n : Nat) : Option Decimal :=
    let k := e - n + 1
    let lo := floorBinDec m q k
    let loIn := inside lo k
    let hiIn := inside (lo + 1) k
    if loIn && hiIn then
      -- the number against the midpoint of the two neighbours
      match compareBinDec (2 * m) q (2 * lo + 1) k, tie with
      | .lt, _ => some ⟨lo, k⟩
      | .gt, _ | .eq, .up => some ⟨lo + 1, k⟩
      | .eq, .even => if lo % 2 == 0 then some ⟨lo, k⟩ else some ⟨lo + 1, k⟩
    else if loIn then some ⟨lo, k⟩
    else if hiIn then some ⟨lo + 1, k⟩
    else none
  let fallback : Decimal := ⟨floorBinDec m q (e - 16), e - 16⟩
  (((List.range 17).findSome? fun i => attempt (i + 1)).getD fallback).normalize

end ConfigTree
