import ConfigTree.Json.Basic
import ConfigTree.Number.Literal

namespace ConfigTree

namespace Json

/-- Drops JSON blanks. -/
def skipBlanks (cs : List Char) : List Char :=
  cs.dropWhile fun c => c == ' ' || c == '\t' || c == '\n' || c == '\r'

/-- The value of one hexadecimal digit. -/
def hexValue (c : Char) : Option Nat :=
  if '0' ≤ c && c ≤ '9' then some (c.toNat - '0'.toNat)
  else if 'a' ≤ c && c ≤ 'f' then some (c.toNat - 'a'.toNat + 10)
  else if 'A' ≤ c && c ≤ 'F' then some (c.toNat - 'A'.toNat + 10)
  else none

/-- The value of four hexadecimal digits. -/
def hex4Value (a b c d : Char) : Option Nat := do
  pure ((((← hexValue a) * 16 + (← hexValue b)) * 16 + (← hexValue c)) * 16 + (← hexValue d))

/-- Whether a code is a leading surrogate. -/
def isHighSurrogate (n : Nat) : Bool := 0xD800 ≤ n && n < 0xDC00

/-- Whether a code is a trailing surrogate. -/
def isLowSurrogate (n : Nat) : Bool := 0xDC00 ≤ n && n < 0xE000

/-- The rest of a string literal after its opening quote, and what follows it. -/
def readStringBody (acc : List Char) : List Char → Option (String × List Char)
  | [] => none
  | '"' :: rest => some (String.ofList acc.reverse, rest)
  | '\\' :: 'u' :: a :: b :: c :: d :: '\\' :: 'u' :: e :: f :: g :: h :: rest =>
    match hex4Value a b c d, hex4Value e f g h with
    | some hi, some lo =>
      if isHighSurrogate hi then
        if isLowSurrogate lo then
          readStringBody (Char.ofNat (0x10000 + (hi - 0xD800) * 0x400 + (lo - 0xDC00)) :: acc) rest
        else none
      else if isLowSurrogate hi then none
      else readStringBody (Char.ofNat hi :: acc) ('\\' :: 'u' :: e :: f :: g :: h :: rest)
    | some hi, none =>
      if isHighSurrogate hi || isLowSurrogate hi then none
      else readStringBody (Char.ofNat hi :: acc) ('\\' :: 'u' :: e :: f :: g :: h :: rest)
    | none, _ => none
  | '\\' :: 'u' :: a :: b :: c :: d :: rest =>
    match hex4Value a b c d with
    | some n =>
      if isHighSurrogate n || isLowSurrogate n then none
      else readStringBody (Char.ofNat n :: acc) rest
    | none => none
  | '\\' :: c :: rest =>
    match c with
    | '"' => readStringBody ('"' :: acc) rest
    | '\\' => readStringBody ('\\' :: acc) rest
    | '/' => readStringBody ('/' :: acc) rest
    | 'b' => readStringBody ('\x08' :: acc) rest
    | 'f' => readStringBody ('\x0c' :: acc) rest
    | 'n' => readStringBody ('\n' :: acc) rest
    | 'r' => readStringBody ('\r' :: acc) rest
    | 't' => readStringBody ('\t' :: acc) rest
    | _ => none
  | c :: rest => if c.toNat < 0x20 then none else readStringBody (c :: acc) rest

/-- The number a JSON number literal stands for. -/
def numberOf (text : List Char) (isInteger : Bool) : Option Json := do
  if isInteger then
    let i ← readIntLiteral (String.ofList text)
    if i == 0 && text.head? == some '-' then pure (.float (Double.ofRatio true 0 1))
    else if -Int.pow 2 63 ≤ i && i < Int.pow 2 64 then pure (.int i)
    else pure (.float (Double.ofInt i))
  else
    let x ← Double.ofString? (String.ofList text)
    pure (.float x)

/-- A number literal at the front of the text: `-?(0|[1-9][0-9]*)(.[0-9]+)?([eE][+-]?[0-9]+)?`. -/
def readNumber (cs : List Char) : Option (Json × List Char) :=
  let (sign, rest) := match cs with
    | '-' :: more => (['-'], more)
    | _ => ([], cs)
  let intPart := rest.takeWhile Char.isDigit
  let rest := rest.dropWhile Char.isDigit
  if intPart.isEmpty || (intPart.head? == some '0' && intPart.length > 1) then none
  else
    let (fracPart, rest) : List Char × List Char := match rest with
      | '.' :: more => ('.' :: more.takeWhile Char.isDigit, more.dropWhile Char.isDigit)
      | _ => ([], rest)
    if fracPart == ['.'] then none
    else
      let (expPart, rest) : List Char × List Char := match rest with
        | e :: more =>
          if e == 'e' || e == 'E' then
            let (s, more) : List Char × List Char := match more with
              | '+' :: m => (['+'], m)
              | '-' :: m => (['-'], m)
              | _ => ([], more)
            ('e' :: s ++ more.takeWhile Char.isDigit, more.dropWhile Char.isDigit)
          else ([], rest)
        | [] => ([], rest)
      if !expPart.isEmpty && !(expPart.getLast?.map Char.isDigit).getD false then none
      else
        (numberOf (sign ++ intPart ++ fracPart ++ expPart) (fracPart.isEmpty && expPart.isEmpty)).map
          (·, rest)

mutual

/-- A document at the front of the text, after blanks; `fuel` bounds the nesting. -/
def readValue (fuel : Nat) (cs : List Char) : Option (Json × List Char) :=
  match fuel with
  | 0 => none
  | fuel + 1 =>
    match skipBlanks cs with
    | 'n' :: 'u' :: 'l' :: 'l' :: rest => some (.null, rest)
    | 't' :: 'r' :: 'u' :: 'e' :: rest => some (.bool true, rest)
    | 'f' :: 'a' :: 'l' :: 's' :: 'e' :: rest => some (.bool false, rest)
    | '"' :: rest => (readStringBody [] rest).map fun (s, r) => (.str s, r)
    | '[' :: rest =>
      match skipBlanks rest with
      | ']' :: more => some (.arr [], more)
      | _ => readItems fuel [] rest
    | '{' :: rest =>
      match skipBlanks rest with
      | '}' :: more => some (.obj [], more)
      | _ => readMembers fuel [] rest
    | other => readNumber other

/-- The items of an array after `[`, up to and including `]`. -/
def readItems (fuel : Nat) (acc : List Json) (cs : List Char) : Option (Json × List Char) :=
  match fuel with
  | 0 => none
  | fuel + 1 => do
    let (item, rest) ← readValue fuel cs
    match skipBlanks rest with
    | ',' :: more => readItems fuel (item :: acc) more
    | ']' :: more => pure (.arr (item :: acc).reverse, more)
    | _ => none

/-- The members of an object after `{`, up to and including `}`. -/
def readMembers (fuel : Nat) (acc : List (String × Json)) (cs : List Char) :
    Option (Json × List Char) :=
  match fuel with
  | 0 => none
  | fuel + 1 => do
    let rest ← match skipBlanks cs with
      | '"' :: rest => some rest
      | _ => none
    let (key, rest) ← readStringBody [] rest
    let rest ← match skipBlanks rest with
      | ':' :: rest => some rest
      | _ => none
    let (value, rest) ← readValue fuel rest
    match skipBlanks rest with
    | ',' :: more => readMembers fuel ((key, value) :: acc) more
    | '}' :: more => pure (.obj (sortedMembers ((key, value) :: acc).reverse), more)
    | _ => none

end

/-- Reads a whole JSON text: one document, blanks around it. -/
def parse? (s : String) : Option Json :=
  let cs := s.toList
  match readValue (cs.length + 1) cs with
  | some (j, rest) => if (skipBlanks rest).isEmpty then some j else none
  | none => none

end Json

end ConfigTree
