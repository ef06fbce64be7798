import ConfigTree.Number.Literal
import ConfigTree.Number.IntKind

namespace ConfigTree

namespace Toml

/-- A scalar of a document. -/
inductive Atom where
  | text (s : String)
  | integer (i : Int)
  | float (x : Double)
  | flag (b : Bool)
  | datetime (canonical : String)
deriving Inhabited

/-- A reader of a prefix of the characters. -/
abbrev Reader (α : Type) := List Char → Except String (α × List Char)

/-- Whether a character is a blank within a line. -/
def isBlank (c : Char) : Bool := c == ' ' || c == '\t'

/-- Whether a character may not appear raw in a string or comment: controls other than tab. -/
def isForbidden (c : Char) : Bool := (c.toNat < 0x20 && c != '\t') || c.toNat == 0x7f

/-- Whether a character may stand in a bare key. -/
def isBareKeyChar (c : Char) : Bool :=
  ('a' ≤ c && c ≤ 'z') || ('A' ≤ c && c ≤ 'Z') || ('0' ≤ c && c ≤ '9') || c == '_' || c == '-'

/-- The value of a hexadecimal digit. -/
def hexValue? (c : Char) : Option Nat :=
  if '0' ≤ c && c ≤ '9' then some (c.toNat - '0'.toNat)
  else if 'a' ≤ c && c ≤ 'f' then some (c.toNat - 'a'.toNat + 10)
  else if 'A' ≤ c && c ≤ 'F' then some (c.toNat - 'A'.toNat + 10)
  else none

/-- The character of a hexadecimal code, if it is a Unicode scalar value. -/
def charOfHex? (ds : List Char) : Option Char := do
  let n ← ds.foldlM (fun acc d => (hexValue? d).map (acc * 16 + ·)) 0
  if n < 0xD800 || (0xDFFF < n && n < 0x110000) then some (Char.ofNat n) else none

/-- The character a one-letter escape stands for. -/
def shortEscape? : Char → Option Char
  | 'b' => some '\x08'
  | 't' => some '\t'
  | 'n' => some '\n'
  | 'f' => some '\x0c'
  | 'r' => some '\r'
  | '"' => some '"'
  | '\\' => some '\\'
  | _ => none

/-- The body of a basic string after its opening quote; `acc` holds what was read, reversed. -/
def readBasic (acc : List Char) : Reader String
  | [] => .error "unterminated string"
  | '"' :: rest => .ok (String.ofList acc.reverse, rest)
  | '\\' :: 'u' :: a :: b :: c :: d :: rest =>
    match charOfHex? [a, b, c, d] with
    | some ch => readBasic (ch :: acc) rest
    | none => .error "invalid unicode escape"
  | '\\' :: 'U' :: a :: b :: c :: d :: e :: f :: g :: h :: rest =>
    match charOfHex? [a, b, c, d, e, f, g, h] with
    | some ch => readBasic (ch :: acc) rest
    | none => .error "invalid unicode escape"
  | '\\' :: e :: rest =>
    match shortEscape? e with
    | some ch => readBasic (ch :: acc) rest
    | none => .error "invalid escape"
  | c :: rest => if isForbidden c then .error "control character in string" else readBasic (c :: acc) rest

/-- The body of a literal string after its opening quote. -/
def readLiteral (acc : List Char) : Reader String
  | [] => .error "unterminated string"
  | '\'' :: rest => .ok (String.ofList acc.reverse, rest)
  | c :: rest => if isForbidden c then .error "control character in string" else readLiteral (c :: acc) rest

/-- The characters after a first newline, which multi-line strings drop. -/
def dropFirstNewline : List Char → List Char
  | '\n' :: rest => rest
  | '\r' :: '\n' :: rest => rest
  | cs => cs

/-- Whether blanks up to a newline follow. -/
def blanksThenNewline : List Char → Bool
  | ' ' :: rest => blanksThenNewline rest
  | '\t' :: rest => blanksThenNewline rest
  | '\n' :: _ => true
  | '\r' :: '\n' :: _ => true
  | _ => false

/-- The body of a multi-line basic string after its opening quotes. -/
def readMultiBasic (acc : List Char) (skipping : Bool) : Reader String
  | [] => .error "unterminated string"
  | '"' :: '"' :: '"' :: '"' :: '"' :: rest => .ok (String.ofList ('"' :: '"' :: acc).reverse, rest)
  | '"' :: '"' :: '"' :: '"' :: rest => .ok (String.ofList ('"' :: acc).reverse, rest)
  | '"' :: '"' :: '"' :: rest => .ok (String.ofList acc.reverse, rest)
  | '\\' :: 'u' :: a :: b :: c :: d :: rest =>
    match charOfHex? [a, b, c, d] with
    | some ch => readMultiBasic (ch :: acc) false rest
    | none => .error "invalid unicode escape"
  | '\\' :: 'U' :: a :: b :: c :: d :: e :: f :: g :: h :: rest =>
    match charOfHex? [a, b, c, d, e, f, g, h] with
    | some ch => readMultiBasic (ch :: acc) false rest
    | none => .error "invalid unicode escape"
  | '\\' :: tail@(e :: rest) =>
    match shortEscape? e with
    | some ch => readMultiBasic (ch :: acc) false rest
    | none =>
      if blanksThenNewline tail then readMultiBasic acc true tail
      else .error "invalid escape"
  | ' ' :: rest => readMultiBasic (if skipping then acc else ' ' :: acc) skipping rest
  | '\t' :: rest => readMultiBasic (if skipping then acc else '\t' :: acc) skipping rest
  | '\n' :: rest => readMultiBasic (if skipping then acc else '\n' :: acc) skipping rest
  | '\r' :: '\n' :: rest => readMultiBasic (if skipping then acc else '\n' :: acc) skipping rest
  | c :: rest =>
    if isForbidden c then .error "control character in string"
    else readMultiBasic (c :: acc) false rest

/-- The body of a multi-line literal string after its opening quotes. -/
def readMultiLiteral (acc : List Char) : Reader String
  | [] => .error "unterminated string"
  | '\'' :: '\'' :: '\'' :: '\'' :: '\'' :: rest => .ok (String.ofList ('\'' :: '\'' :: acc).reverse, rest)
  | '\'' :: '\'' :: '\'' :: '\'' :: rest => .ok (String.ofList ('\'' :: acc).reverse, rest)
  | '\'' :: '\'' :: '\'' :: rest => .ok (String.ofList acc.reverse, rest)
  | '\r' :: '\n' :: rest => readMultiLiteral ('\n' :: acc) rest
  | c :: rest =>
    if c != '\n' && isForbidden c then .error "control character in string"
    else readMultiLiteral (c :: acc) rest

/-- A key segment: bare, or a basic or literal string on one line. -/
def readSimpleKey : Reader String
  | '"' :: rest => readBasic [] rest
  | '\'' :: rest => readLiteral [] rest
  | cs =>
    let bare := cs.takeWhile isBareKeyChar
    if bare.isEmpty then .error "expected a key" else .ok (String.ofList bare, cs.dropWhile isBareKeyChar)

/-- A dotted key: segments joined by dots, blanks allowed around each dot. -/
def readKey (fuel : Nat) (cs : List Char) : Except String (List String × List Char) :=
  match fuel with
  | 0 => .error "key too long"
  | fuel + 1 => do
    let (k, rest) ← readSimpleKey cs
    match rest.dropWhile isBlank with
    | '.' :: more => do
      let (ks, rest) ← readKey fuel (more.dropWhile isBlank)
      pure (k :: ks, rest)
    | _ => pure ([k], rest)

/-- Digits with single `_` only between them, as a list of digits. -/
def digitsOf? (isDigit : Char → Bool) : List Char → Option (List Char)
  | [] => none
  | [c] => if isDigit c then some [c] else none
  | c :: '_' :: more => if isDigit c then (digitsOf? isDigit more).map (c :: ·) else none
  | c :: d :: more => if isDigit c then (digitsOf? isDigit (d :: more)).map (c :: ·) else none
termination_by cs => cs.length

/-- The value of digits in a base. -/
def digitsValue (base : Nat) (ds : List Char) : Nat :=
  ds.foldl (fun acc d => acc * base + ((hexValue? d).getD 0)) 0

/-- Whether a character is a decimal digit. -/
def isDecimal (c : Char) : Bool := '0' ≤ c && c ≤ '9'

/-- The sign and remaining characters of a number. -/
def splitNumberSign : List Char → Bool × Bool × List Char
  | '+' :: rest => (true, false, rest)
  | '-' :: rest => (true, true, rest)
  | cs => (false, false, cs)

/-- The decimal digits of an integer part: `0` alone, or digits not starting with `0`. -/
def integerPart? (cs : List Char) : Option (List Char) :=
  match digitsOf? isDecimal cs with
  | some ds => if ds.length > 1 && ds.head? == some '0' then none else some ds
  | none => none

/-- An integer written in full. -/
def readInteger? (cs : List Char) : Option Int :=
  let fits (i : Int) : Option Int := if IntKind.i64.holds i then some i else none
  match cs with
  | '0' :: 'x' :: rest => (digitsOf? (fun c => (hexValue? c).isSome) rest).bind (fits ∘ Int.ofNat ∘ digitsValue 16)
  | '0' :: 'o' :: rest => (digitsOf? (fun c => '0' ≤ c && c ≤ '7') rest).bind (fits ∘ Int.ofNat ∘ digitsValue 8)
  | '0' :: 'b' :: rest => (digitsOf? (fun c => c == '0' || c == '1') rest).bind (fits ∘ Int.ofNat ∘ digitsValue 2)
  | _ =>
    let (_, neg, rest) := splitNumberSign cs
    (integerPart? rest).bind fun ds =>
      let n : Int := digitsValue 10 ds
      fits (if neg then -n else n)

/-- The characters of a float written in full, without `_`, if it is one. -/
def floatText? (cs : List Char) : Option (List Char) :=
  let (signed, neg, rest) := splitNumberSign cs
  let sign := if signed then [if neg then '-' else '+'] else []
  match rest with
  | ['i', 'n', 'f'] => some (sign ++ rest)
  | ['n', 'a', 'n'] => some (sign ++ rest)
  | _ =>
    let intChars := rest.takeWhile fun c => isDecimal c || c == '_'
    let after := rest.dropWhile fun c => isDecimal c || c == '_'
    let exponent? (es : List Char) : Option (List Char) :=
      let (esigned, eneg, eds) := splitNumberSign es
      (digitsOf? isDecimal eds).map fun ds => 'e' :: (if esigned then [if eneg then '-' else '+'] else []) ++ ds
    do
      let ip ← integerPart? intChars
      match after with
      | '.' :: frac =>
        let fracChars := frac.takeWhile fun c => isDecimal c || c == '_'
        let fds ← digitsOf? isDecimal fracChars
        match frac.dropWhile fun c => isDecimal c || c == '_' with
        | [] => some (sign ++ ip ++ '.' :: fds)
        | 'e' :: es | 'E' :: es => do pure (sign ++ ip ++ '.' :: fds ++ (← exponent? es))
        | _ => none
      | 'e' :: es | 'E' :: es => do pure (sign ++ ip ++ (← exponent? es))
      | _ => none

/-- A fixed number of decimal digits as a number. -/
def fixedDigits? (ds : List Char) : Option Nat :=
  if ds.all isDecimal then some (digitsValue 10 ds) else none

/-- Whether a year is a leap year. -/
def isLeap (y : Nat) : Bool := y % 4 == 0 && (y % 100 != 0 || y % 400 == 0)

/-- The number of days of a month. -/
def daysIn (y m : Nat) : Nat :=
  if m == 2 then (if isLeap y then 29 else 28)
  else if m == 4 || m == 6 || m == 9 || m == 11 then 30 else 31

/-- A number with at least two digits. -/
def pad2 (n : Nat) : String := if n < 10 then "0" ++ toString n else toString n

/-- A number with at least four digits. -/
def pad4 (n : Nat) : String :=
  String.ofList (List.replicate (4 - (toString n).length) '0') ++ toString n

/-- A date `yyyy-mm-dd`, canonical, with the rest. -/
def readDate? : List Char → Option (String × List Char)
  | y1 :: y2 :: y3 :: y4 :: '-' :: m1 :: m2 :: '-' :: d1 :: d2 :: rest => do
    let y ← fixedDigits? [y1, y2, y3, y4]
    let m ← fixedDigits? [m1, m2]
    let d ← fixedDigits? [d1, d2]
    if 1 ≤ m && m ≤ 12 && 1 ≤ d && d ≤ daysIn y m then some (pad4 y ++ "-" ++ pad2 m ++ "-" ++ pad2 d, rest)
    else none
  | _ => none

/-- Seconds' fraction: up to nine digits count, as nanoseconds written without trailing zeros. -/
def fractionText (ds : List Char) : String :=
  let nanos := ((ds.take 9).zipIdx.map fun (d, i) => (d.toNat - '0'.toNat) * Nat.pow 10 (8 - i)).foldr (· + ·) 0
  if nanos == 0 then ""
  else
    let text := toString nanos
    let full := String.ofList (List.replicate (9 - text.length) '0') ++ text
    "." ++ String.ofList (full.toList.reverse.dropWhile (· == '0')).reverse

/-- A time `hh:mm:ss` with an optional fraction, canonical, with the rest. -/
def readTime? : List Char → Option (String × List Char)
  | h1 :: h2 :: ':' :: m1 :: m2 :: ':' :: s1 :: s2 :: rest => do
    let h ← fixedDigits? [h1, h2]
    let m ← fixedDigits? [m1, m2]
    let s ← fixedDigits? [s1, s2]
    if h ≤ 23 && m ≤ 59 && s ≤ 60 then
      let base := pad2 h ++ ":" ++ pad2 m ++ ":" ++ pad2 s
      match rest with
      | '.' :: more =>
        let ds := more.takeWhile isDecimal
        if ds.isEmpty then none else some (base ++ fractionText ds, more.dropWhile isDecimal)
      | _ => some (base, rest)
    else none
  | _ => none

/-- A time offset, canonical, with the rest. -/
def readOffset? : List Char → Option (String × List Char)
  | 'Z' :: rest | 'z' :: rest => some ("Z", rest)
  | s :: h1 :: h2 :: ':' :: m1 :: m2 :: rest =>
    if s != '+' && s != '-' then none
    else do
      let h ← fixedDigits? [h1, h2]
      let m ← fixedDigits? [m1, m2]
      if h ≤ 23 && m ≤ 59 then
        let sign := if s == '-' && h * 60 + m != 0 then "-" else "+"
        some (sign ++ pad2 h ++ ":" ++ pad2 m, rest)
      else none
  | _ => none

/-- A date, a time, or a date and time with an optional offset, written in full, canonical. -/
def readDatetime? (cs : List Char) : Option String :=
  match readDate? cs with
  | some (date, []) => some date
  | some (date, sep :: more) =>
    if sep == 'T' || sep == 't' || sep == ' ' then do
      let (time, rest) ← readTime? more
      match rest with
      | [] => some (date ++ "T" ++ time)
      | _ =>
        match readOffset? rest with
        | some (offset, []) => some (date ++ "T" ++ time ++ offset)
        | _ => none
    else none
  | none =>
    match readTime? cs with
    | some (time, []) => some time
    | _ => none

/-- Whether float text names infinity itself rather than a number. -/
def namesInfinity (t : List Char) : Bool :=
  t.dropWhile (fun c => c == '+' || c == '-') == ['i', 'n', 'f']

/-- The scalar a bare word stands for: a flag, an integer, a float or a date and time. -/
def atomOfWord? (cs : List Char) : Option Atom :=
  if cs == ['t', 'r', 'u', 'e'] then some (.flag true)
  else if cs == ['f', 'a', 'l', 's', 'e'] then some (.flag false)
  else
    match readInteger? cs with
    | some i => some (.integer i)
    | none =>
      match floatText? cs with
      | some t =>
        (Double.ofString? (String.ofList t)).bind fun x =>
          if x == Double.inf false && !namesInfinity t then none else some (.float x)
      | none => (readDatetime? cs).map .datetime

/-- Whether a character continues a bare word: letters, digits, and `+ - _ . :`. -/
def isWordChar (c : Char) : Bool :=
  c.isAlphanum || c == '+' || c == '-' || c == '_' || c == '.' || c == ':'

/-- A bare word at the front; a date followed by a blank and a time is one word. -/
def takeWord (cs : List Char) : List Char × List Char :=
  let word := cs.takeWhile isWordChar
  let rest := cs.dropWhile isWordChar
  match readDate? word, rest with
  | some (_, []), ' ' :: h1 :: h2 :: ':' :: more =>
    if isDecimal h1 && isDecimal h2 then
      let tail := more.takeWhile isWordChar
      (word ++ ' ' :: h1 :: h2 :: ':' :: tail, more.dropWhile isWordChar)
    else (word, rest)
  | _, _ => (word, rest)

end Toml

end ConfigTree
