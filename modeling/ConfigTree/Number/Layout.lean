import ConfigTree.Number.Shortest

namespace ConfigTree

/-- The choices of a number layout. -/
structure FloatLayout where
  pointRange : Option (Int × Int)
  minFrac : Nat
  plusExp : Bool
  tie : Tie
  nanText : String
  infText : String
  negInfText : String

namespace FloatLayout

/-- Shown as text: always positional, no `.0`, a tie going up. -/
def plain : FloatLayout := ⟨none, 0, false, .up, "NaN", "inf", "-inf"⟩

/-- Diagnostic dumps: positional from `1e-4` up to `1e16`, with `.0`, a tie going up. -/
def debug : FloatLayout := ⟨some (-4, 16), 1, false, .up, "NaN", "inf", "-inf"⟩

/-- JSON documents: positional from `1e-5` up to `1e16`, with `.0`, a `+` on exponents, a tie going
to the even digit, and `null` for what JSON cannot hold. -/
def json : FloatLayout := ⟨some (-5, 16), 1, true, .even, "null", "null", "null"⟩

/-- `n` zero characters. -/
def zeros (n : Nat) : String := String.ofList (List.replicate n '0')

/-- Writes the digits `ds` scaled by `10 ^ k` positionally. -/
def positional (l : FloatLayout) (ds : String) (k : Int) : String :=
  let len := ds.length
  let p : Int := len + k
  if 0 ≤ k then
    ds ++ zeros k.toNat ++ (if l.minFrac == 0 then "" else "." ++ zeros l.minFrac)
  else if 0 < p then
    String.ofList (ds.toList.take p.toNat) ++ "." ++ String.ofList (ds.toList.drop p.toNat)
  else "0." ++ zeros (-p).toNat ++ ds

/-- Writes the digits `ds` scaled by `10 ^ k` in exponent form. -/
def scientific (l : FloatLayout) (ds : String) (k : Int) : String :=
  let cs := ds.toList
  let e : Int := cs.length + k - 1
  let mant := match cs with
    | [] => "0"
    | [c] => String.singleton c
    | c :: rest => String.singleton c ++ "." ++ String.ofList rest
  let sign := if e < 0 then "-" else if l.plusExp then "+" else ""
  mant ++ "e" ++ sign ++ toString e.natAbs

/-- Writes a non-negative decimal. -/
def decimal (l : FloatLayout) (d : Decimal) : String :=
  if d.digits == 0 then
    "0" ++ (if l.minFrac == 0 then "" else "." ++ zeros l.minFrac)
  else
    let ds := toString d.digits
    let p : Int := ds.length + d.exp
    match l.pointRange with
    | none => l.positional ds d.exp
    | some (lo, hi) => if lo < p && p ≤ hi then l.positional ds d.exp else l.scientific ds d.exp

/-- Writes a number of the format `f`. -/
def render (l : FloatLayout) (f : FloatFormat) : FloatClass → String
  | .nan => l.nanText
  | .inf neg => if neg then l.negInfText else l.infText
  | .finite neg m q =>
    let body := l.decimal (if m == 0 then ⟨0, 0⟩ else shortestDigits f l.tie m q)
    if neg then "-" ++ body else body

end FloatLayout

/-- The text of a 64-bit number in a layout. -/
def Double.render (l : FloatLayout) (x : Double) : String := l.render .binary64 x.classify

/-- The text of a 32-bit number in a layout. -/
def Single.render (l : FloatLayout) (x : Single) : String := l.render .binary32 x.classify

end ConfigTree
