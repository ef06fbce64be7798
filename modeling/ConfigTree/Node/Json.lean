import ConfigTree.Node.Tree
import ConfigTree.Json.Basic
import ConfigTree.Error

namespace ConfigTree

/-- The entries that have a value, in order. -/
def presentEntries : List (String × Option Value) → List (String × Value)
  | [] => []
  | (k, some v) :: rest => (k, v) :: presentEntries rest
  | (_, none) :: rest => presentEntries rest

/-- Whether an integer fits 64 signed bits. -/
def fitsInt64 (i : Int) : Bool := -Int.pow 2 63 ≤ i && i < Int.pow 2 63

/-- The value of an integer: an integer when it fits 64 signed bits, else its decimal text. -/
def Value.ofInt (i : Int) : Value := if fitsInt64 i then .int i else .str (toString i)

mutual

/-- The value of a document; `null` has none. -/
def Value.ofJson : Json → Option Value
  | .null => none
  | .bool b => some (.bool b)
  | .int i =>
    if fitsInt64 i then some (.int i)
    else if 0 ≤ i && i < Int.pow 2 64 then some (.str (toString i))
    else some (.float (Double.ofInt i))
  | .float x => some (.float x)
  | .str s => some (.str s)
  | .arr items => some (.list (Value.ofJsonItems items))
  | .obj members => some (.node (Node.ofPairs (presentEntries (Value.ofJsonPairs members))))

/-- The values of array items, `null` dropped. -/
def Value.ofJsonItems : List Json → List Value
  | [] => []
  | j :: rest =>
    match Value.ofJson j with
    | some v => v :: Value.ofJsonItems rest
    | none => Value.ofJsonItems rest

/-- The values of object members in the order written, `none` for `null`. -/
def Value.ofJsonPairs : List (String × Json) → List (String × Option Value)
  | [] => []
  | (k, j) :: rest => (k, Value.ofJson j) :: Value.ofJsonPairs rest

end

mutual

/-- The document of a value; a number that is infinite or not a number is written as `null`. -/
def Value.toJson : Value → Json
  | .bool b => .bool b
  | .int i => .int i
  | .float x => if x.isFinite then .float x else .null
  | .str s => .str s
  | .list items => .arr (Value.itemsToJson items)
  | .node entries => .obj (Value.entriesToJson entries)

/-- The documents of list items. -/
def Value.itemsToJson : List Value → List Json
  | [] => []
  | v :: rest => Value.toJson v :: Value.itemsToJson rest

/-- The members of node entries. -/
def Value.entriesToJson : List (String × Value) → List (String × Json)
  | [] => []
  | (k, v) :: rest => (k, Value.toJson v) :: Value.entriesToJson rest

end

/-- The document of a node. -/
def Node.toJson (n : Node) : Json := .obj (Value.entriesToJson n)

/-- The node of a document: an object, or nothing for `null`; any other document is refused. -/
def Node.ofJson (j : Json) : Except ConfigError Node :=
  match Value.ofJson j with
  | some (.node n) => .ok n
  | some other => .error (.cannotLoad ("expected a JSON object, found a " ++ other.kind))
  | none => .ok []

/-- The compact JSON text of a node. -/
def Node.display (n : Node) : String := n.toJson.compact

/-- The text of a value: leaves as they read, lists and nodes as compact JSON. -/
def Value.display : Value → String
  | .bool b => if b then "true" else "false"
  | .int i => toString i
  | .float x => x.render .plain
  | .str s => s
  | v => v.toJson.compact

end ConfigTree
