import ConfigTree.Node.Tree
import ConfigTree.Text.Case

namespace ConfigTree

namespace Properties

/-- Drops one carriage return at the end of a line. -/
def dropCarriageReturn (l : String) : String :=
  if l.endsWith "\r" then String.ofList l.toList.dropLast else l

/-- The lines of a text: split at line feeds, with a carriage return before a line feed dropped, and
no empty last line after a final line feed. -/
def lines (s : String) : List String :=
  match (s.splitOn "\n").reverse with
  | [] => []
  | last :: earlier =>
    let ended := earlier.reverse.map dropCarriageReturn
    if last.isEmpty then ended else ended ++ [last]

/-- Whether a line ends in an odd number of backslashes. -/
def continues (line : List Char) : Bool :=
  (line.reverse.takeWhile (· == '\\')).length % 2 == 1

/-- Whether a character ends a key. -/
def isSeparator (c : Char) : Bool := c == '=' || c == ':' || c == ' ' || c == '\t' || c == '\x0c'

/-- Whether a character is a blank between key and value. -/
def isBlank (c : Char) : Bool := c == ' ' || c == '\t' || c == '\x0c'

/-- The value of a hexadecimal text with an optional leading `+`, as a character. -/
def hexChar? (code : List Char) : Option Char :=
  let digits := match code with
    | '+' :: rest => rest
    | _ => code
  let value? := digits.foldlM (fun acc c =>
    if c.isDigit then some (acc * 16 + (c.toNat - '0'.toNat))
    else if 'a' ≤ c && c ≤ 'f' then some (acc * 16 + (c.toNat - 'a'.toNat + 10))
    else if 'A' ≤ c && c ≤ 'F' then some (acc * 16 + (c.toNat - 'A'.toNat + 10))
    else none) 0
  if digits.isEmpty then none
  else
    match value? with
    | some n => if n < 0xD800 || (0xE000 ≤ n && n < 0x110000) then some (Char.ofNat n) else none
    | none => none

/-- Resolves the escapes of a key or value. -/
def unescape : List Char → List Char
  | [] => []
  | '\\' :: 't' :: rest => '\t' :: unescape rest
  | '\\' :: 'n' :: rest => '\n' :: unescape rest
  | '\\' :: 'r' :: rest => '\r' :: unescape rest
  | '\\' :: 'f' :: rest => '\x0c' :: unescape rest
  | '\\' :: 'u' :: rest =>
    let code := rest.take 4
    match hexChar? code with
    | some c => c :: unescape (rest.drop 4)
    | none => '\\' :: 'u' :: code ++ unescape (rest.drop 4)
  | '\\' :: c :: rest => c :: unescape rest
  | ['\\'] => []
  | c :: rest => c :: unescape rest
termination_by cs => cs.length

/-- The raw key of a logical line, up to its first unescaped separator, and the rest. -/
def splitKey : List Char → List Char × List Char
  | [] => ([], [])
  | '\\' :: c :: rest => let (k, r) := splitKey rest; ('\\' :: c :: k, r)
  | c :: rest => if isSeparator c then ([], c :: rest) else let (k, r) := splitKey rest; (c :: k, r)

/-- The key and value of a logical line. -/
def splitEntry (line : List Char) : String × String :=
  let (key, rest) := splitKey line
  let rest := rest.dropWhile isBlank
  let rest := match rest with
    | '=' :: more => more
    | ':' :: more => more
    | _ => rest
  let rest := rest.dropWhile isBlank
  (String.ofList (unescape key), String.ofList (unescape rest))

/-- The entries of lines, in order; `pending` is a logical line still being continued. -/
def entriesOf (pending : Option (List Char)) : List String → List (String × String)
  | [] =>
    match pending with
    | some logical => [splitEntry logical.dropLast]
    | none => []
  | line :: rest =>
    match pending with
    | some logical =>
      let joined := logical.dropLast ++ (Text.trimStart line).toList
      if continues joined then entriesOf (some joined) rest
      else splitEntry joined :: entriesOf none rest
    | none =>
      let logical := (Text.trimStart line).toList
      if logical.isEmpty || logical.head? == some '#' || logical.head? == some '!' then
        entriesOf none rest
      else if continues logical then entriesOf (some logical) rest
      else splitEntry logical :: entriesOf none rest

/-- The entries of a `.properties` text, in order. -/
def entries (text : String) : List (String × String) := entriesOf none (lines text)

end Properties

/-- The node of a `.properties` text: keys expanded on `.`, later entries winning. -/
def Node.ofProperties (text : String) : Node :=
  Node.ofPairs ((Properties.entries text).map fun (k, v) => (k, .str v))

end ConfigTree
