import ConfigTree.Coerce

namespace ConfigTree

/-- A default body. -/
inductive Body where
  | literal (j : Json)
  | get (member : String)
  | inc (b : Body)
  | concat (parts : List Body)
  | seq (steps : List Body)
  | parentGet (slot member : String) (otherwise : Body)
  | convert (t : Target) (b : Body)
  | ifParent (slot : String) (present absent : Body)
deriving Inhabited

namespace Body

/-- A member of a body object: its key, its document, the body it stands for, and the bodies of its
items when it is an array. -/
abbrev Part := String × Json × Body × List Body

/-- The body an object stands for, given its parts; of repeated keys the last one counts. -/
def select (parts : List Part) : Body :=
  let part? (k : String) : Option (Json × Body × List Body) :=
    (parts.reverse.find? (·.1 == k)).map (·.2)
  match part? "const", part? "get", part? "inc", part? "concat", part? "seq", part? "pget" with
  | some (j, _, _), _, _, _, _, _ => .literal j
  | none, some (j, _, _), _, _, _, _ =>
    match j with
    | .str m => .get m
    | _ => .literal .null
  | none, none, some (_, b, _), _, _, _ => .inc b
  | none, none, none, some (_, _, bs), _, _ => .concat bs
  | none, none, none, none, some (_, _, bs), _ => .seq bs
  | none, none, none, none, none, some (j, _, _) =>
    let otherwise := ((part? "else").map (·.2.1)).getD (.literal .null)
    match j with
    | .arr [.str p, .str m] => .parentGet p m otherwise
    | _ => otherwise
  | none, none, none, none, none, none => .literal .null

mutual

/-- The body a document stands for. -/
def ofJson : Json → Body
  | .obj members => select (ofMembers members)
  | j => .literal j

/-- The parts of a body object. -/
def ofMembers : List (String × Json) → List Part
  | [] => []
  | (k, j) :: rest => (k, j, ofJson j, ofItemsOf j) :: ofMembers rest

/-- The bodies of an array's items, none for other documents. -/
def ofItemsOf : Json → List Body
  | .arr items => ofItems items
  | _ => []

/-- The bodies of documents. -/
def ofItems : List Json → List Body
  | [] => []
  | j :: rest => ofJson j :: ofItems rest

end

/-- A result incremented: a text holding a decimal integer of 64 signed bits gives the text of the
next integer; anything else gives `null`. -/
def increment : Json → Json
  | .str s =>
    match readIntLiteral s with
    | some i => if IntKind.i64.holds i then .str (toString (i + 1)) else .null
    | none => .null
  | _ => .null

/-- The text a result contributes to a concatenation: a text itself, anything else its compact form.
-/
def piece : Json → String
  | .str s => s
  | j => j.compact

end Body

end ConfigTree
