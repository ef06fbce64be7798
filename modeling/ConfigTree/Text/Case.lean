import ConfigTree.Text.CaseTable

namespace ConfigTree

namespace Text

/-- The image of a character under a case map given by runs and expansions. -/
def caseMap (runs : List CaseRun) (expansions : List (Nat × List Nat)) (c : Char) : List Char :=
  match expansions.lookup c.toNat with
  | some ms => ms.map Char.ofNat
  | none =>
    match runs.findSome? (·.image? c.toNat) with
    | some n => [Char.ofNat n]
    | none => [c]

/-- The upper case of a character: one or more characters. -/
def upperChar (c : Char) : List Char := caseMap upperRuns upperExpansions c

/-- The lower case of a character, without context: one or more characters. -/
def lowerChar (c : Char) : List Char := caseMap lowerRuns lowerExpansions c

/-- Whether a character has the Unicode `Cased` property. -/
def isCased (c : Char) : Bool := inRanges casedRanges c.toNat

/-- Whether a character has the Unicode `Case_Ignorable` property: a word may carry it between its
letters without ending. -/
def isCaseIgnorable (c : Char) : Bool := inRanges caseIgnorableRanges c.toNat

/-- Whether, skipping case-ignorable characters, the first character is cased. -/
def casedAfterIgnorable (cs : List Char) : Bool :=
  match cs.dropWhile isCaseIgnorable with
  | c :: _ => isCased c
  | [] => false

/-- Upper-cases a text. -/
def toUpper (s : String) : String := String.ofList (s.toList.flatMap upperChar)

/-- Lower-cases the characters of `rest`, `before` holding what came before them, reversed. -/
def lowerFrom (before : List Char) : List Char → List Char
  | [] => []
  | c :: rest =>
    let image :=
      if c == 'Σ' then
        if casedAfterIgnorable before && !casedAfterIgnorable rest then ['ς'] else ['σ']
      else lowerChar c
    image ++ lowerFrom (c :: before) rest

/-- Lower-cases a text; a capital sigma that ends a word becomes `ς`. -/
def toLower (s : String) : String := String.ofList (lowerFrom [] s.toList)

/-- The characters of the Unicode `White_Space` property. -/
def isWhiteSpace (c : Char) : Bool :=
  let n := c.toNat
  (0x9 ≤ n && n ≤ 0xD) || n == 0x20 || n == 0x85 || n == 0xA0 || n == 0x1680 ||
    (0x2000 ≤ n && n ≤ 0x200A) || n == 0x2028 || n == 0x2029 || n == 0x202F || n == 0x205F ||
    n == 0x3000

/-- Removes white space from both ends. -/
def trim (s : String) : String :=
  String.ofList (((s.toList.dropWhile isWhiteSpace).reverse.dropWhile isWhiteSpace).reverse)

/-- Removes white space from the start. -/
def trimStart (s : String) : String := String.ofList (s.toList.dropWhile isWhiteSpace)

end Text

end ConfigTree
