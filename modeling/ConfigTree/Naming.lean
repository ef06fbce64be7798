import ConfigTree.Text.Case

namespace ConfigTree

/-- How member names become keys. -/
inductive Naming where
  | asDeclared
  | camelCase
  | lowerCase
  | pascalCase
  | snakeCase
deriving DecidableEq, Repr, Inhabited

namespace Naming

/-- Whether a character is lower case: lower-casing keeps it and upper-casing changes it. -/
def isLower (c : Char) : Bool := Text.lowerChar c == [c] && Text.upperChar c != [c]

/-- Whether a character is upper case: upper-casing keeps it and lower-casing changes it. -/
def isUpper (c : Char) : Bool := Text.upperChar c == [c] && Text.lowerChar c != [c]

/-- Splits characters into words; `current` is the word being read, reversed, and `prev` its last
character. -/
def splitWords (current : List Char) (prev : Option Char) : List Char → List String
  | [] => [String.ofList current.reverse]
  | c :: rest =>
    if c == '_' then String.ofList current.reverse :: splitWords [] none rest
    else if (prev.map isLower).getD false && isUpper c then
      String.ofList current.reverse :: splitWords [c] (some c) rest
    else splitWords (c :: current) (some c) rest

/-- The non-empty words of a name. -/
def words (name : String) : List String := (splitWords [] none name.toList).filter (· != "")

/-- A word with its first character in upper case and the rest in lower case. -/
def capitalize (w : String) : String :=
  match w.toList with
  | [] => ""
  | c :: rest => String.ofList (Text.upperChar c) ++ Text.toLower (String.ofList rest)

/-- The key of a member name. -/
def convert (n : Naming) (member : String) : String :=
  match n with
  | .asDeclared => member
  | .camelCase =>
    match words member with
    | [] => ""
    | w :: ws => Text.toLower w ++ String.join (ws.map capitalize)
  | .lowerCase => String.join ((words member).map Text.toLower)
  | .pascalCase => String.join ((words member).map capitalize)
  | .snakeCase => "_".intercalate ((words member).map Text.toLower)

/-- A getter's name without a leading `get_` or `is_`, unless nothing would remain. -/
def propertyName (getter : String) : String :=
  let strip (p : String) : Option String :=
    if getter.startsWith p then some (String.ofList (getter.toList.drop p.length)) else none
  match (strip "get_").orElse fun _ => strip "is_" with
  | some rest => if rest.isEmpty then getter else rest
  | none => getter

/-- The key of a getter. -/
def convertGetter (n : Naming) (getter : String) : String := n.convert (propertyName getter)

/-- Whether a character is an ASCII or other decimal digit. -/
def isDigitChar (c : Char) : Bool := c.isDigit

/-- Splits an identifier into words at every boundary a type or variant name can have: `_`, `-` and
spaces (dropped), lower to upper case, letters to digits and back, and before the last capital of a
run of capitals followed by a lower-case letter. -/
def identWords (ident : String) : List String :=
  let cs := ident.toList
  let rec go (acc : List Char) (words : List String) : List Char → List String
    | [] => (String.ofList acc.reverse :: words).reverse
    | c :: rest =>
      if c == '_' || c == '-' || c == ' ' then go [] (String.ofList acc.reverse :: words) rest
      else
        let prev := acc.head?
        let next := rest.head?
        let isBoundary : Bool := match prev with
          | none => false
          | some p =>
            (isLower p && isUpper c) || (isUpper p && isDigitChar c) || (isDigitChar p && isUpper c) ||
              (isDigitChar p && isLower c) || (isLower p && isDigitChar c) ||
              (isUpper p && isUpper c && (next.map isLower).getD false)
        if isBoundary then go [c] (String.ofList acc.reverse :: words) rest
        else go (c :: acc) words rest
  (go [] [] cs).filter (· != "")

/-- An identifier in upper case with words joined by `_`. -/
def upperSnake (ident : String) : String := "_".intercalate ((identWords ident).map Text.toUpper)

/-- The convention of a name as configuration files write it. -/
def ofName? : String → Option Naming
  | "as_declared" => some .asDeclared
  | "camel_case" => some .camelCase
  | "lower_case" => some .lowerCase
  | "pascal_case" => some .pascalCase
  | "snake_case" => some .snakeCase
  | _ => none

end Naming

end ConfigTree
