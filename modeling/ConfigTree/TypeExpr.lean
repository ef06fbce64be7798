
namespace ConfigTree

/-- A type expression: a name applied to arguments. -/
inductive TypeExpr where
  | app (name : String) (args : List TypeExpr)
deriving Repr, Inhabited

namespace TypeExpr

/-- Whether a character may stand in a type name. -/
def isNameChar (c : Char) : Bool := c.isAlphanum || c == '_' || c == ':'

mutual

/-- An expression at the front of the characters; `fuel` bounds the nesting. -/
def readExpr (fuel : Nat) (cs : List Char) : Option (TypeExpr × List Char) :=
  match fuel with
  | 0 => none
  | fuel + 1 =>
    let name := cs.takeWhile isNameChar
    let rest := cs.dropWhile isNameChar
    if name.isEmpty then none
    else
      match rest with
      | '<' :: more => do
        let (args, rest) ← readArgs fuel [] more
        pure (.app (String.ofList name) args, rest)
      | _ => some (.app (String.ofList name) [], rest)

/-- Arguments after `<`, up to and including `>`. -/
def readArgs (fuel : Nat) (acc : List TypeExpr) (cs : List Char) :
    Option (List TypeExpr × List Char) :=
  match fuel with
  | 0 => none
  | fuel + 1 => do
    let (arg, rest) ← readExpr fuel cs
    match rest with
    | ',' :: more => readArgs fuel (arg :: acc) more
    | '>' :: more => pure ((arg :: acc).reverse, more)
    | _ => none

end

/-- Reads a whole type expression, blanks ignored. -/
def parse? (s : String) : Option TypeExpr :=
  let cs := s.toList.filter fun c => !(c == ' ' || c == '\t' || c == '\n' || c == '\r')
  match readExpr (cs.length + 1) cs with
  | some (e, []) => some e
  | _ => none

end TypeExpr

end ConfigTree
