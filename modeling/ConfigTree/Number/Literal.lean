import ConfigTree.Number.Format

namespace ConfigTree

/-- A float literal that was read: NaN, an infinity, or `±digits * 10 ^ exp`. -/
inductive FloatLiteral where
  | nan (neg : Bool)
  | inf (neg : Bool)
  | finite (neg : Bool) (digits : Nat) (exp : Int)
deriving DecidableEq, Repr

/-- Splits off a leading `+` or `-`. -/
def splitSign : List Char → Bool × List Char
  | '-' :: rest => (true, rest)
  | '+' :: rest => (false, rest)
  | cs => (false, cs)

/-- The value of a list of decimal digits. -/
def digitsValue (cs : List Char) : Nat :=
  cs.foldl (fun acc c => acc * 10 + (c.toNat - '0'.toNat)) 0

/-- Whether every character is an ASCII digit. -/
def allDigits (cs : List Char) : Bool := cs.all Char.isDigit

/-- Reads an integer literal. -/
def readIntLiteral (s : String) : Option Int :=
  let (neg, cs) := splitSign s.toList
  if cs.isEmpty || !allDigits cs then none
  else
    let n : Int := digitsValue cs
    some (if neg then -n else n)

/-- Reads the exponent part after the `e`. -/
def readExponent (cs : List Char) : Option Int :=
  let (neg, ds) := splitSign cs
  if ds.isEmpty || !allDigits ds then none
  else
    let n : Int := digitsValue ds
    some (if neg then -n else n)

/-- Reads a float literal. -/
def readFloatLiteral (s : String) : Option FloatLiteral :=
  let (neg, cs) := splitSign s.toList
  let word := String.ofList (cs.map Char.toLower)
  if word == "inf" || word == "infinity" then some (.inf neg)
  else if word == "nan" then some (.nan neg)
  else
    let intPart := cs.takeWhile Char.isDigit
    let rest := cs.dropWhile Char.isDigit
    let (fracPart, rest) := match rest with
      | '.' :: more => (more.takeWhile Char.isDigit, more.dropWhile Char.isDigit)
      | _ => ([], rest)
    if intPart.isEmpty && fracPart.isEmpty then none
    else
      let exp? : Option Int := match rest with
        | [] => some 0
        | c :: more => if c == 'e' || c == 'E' then readExponent more else none
      exp?.map fun e =>
        .finite neg (digitsValue (intPart ++ fracPart)) (e - fracPart.length)

/-- The pattern of a finite literal in the format `f`, rounded to nearest. -/
def FloatFormat.ofDecimal (f : FloatFormat) (neg : Bool) (digits : Nat) (exp : Int) : Nat :=
  let magnitude : Int := (decimalLength digits : Int) + exp
  if digits == 0 then f.round neg 0 1
  else if magnitude > 311 then f.infBits neg
  else if magnitude < -330 then f.round neg 0 1
  else if 0 ≤ exp then f.round neg (digits * Nat.pow 10 exp.toNat) 1
  else f.round neg digits (Nat.pow 10 (-exp).toNat)

/-- The pattern of a literal in the format `f`. -/
def FloatLiteral.toBits (f : FloatFormat) : FloatLiteral → Nat
  | .nan neg => (if neg then f.signBit else 0) + f.nanBits
  | .inf neg => f.infBits neg
  | .finite neg digits exp => f.ofDecimal neg digits exp

/-- Reads a 64-bit number from text. -/
def Double.ofString? (s : String) : Option Double :=
  (readFloatLiteral s).map fun lit => ⟨(lit.toBits .binary64).toUInt64⟩

/-- Reads a 32-bit number from text. -/
def Single.ofString? (s : String) : Option Single :=
  (readFloatLiteral s).map fun lit => ⟨(lit.toBits .binary32).toUInt32⟩

end ConfigTree
