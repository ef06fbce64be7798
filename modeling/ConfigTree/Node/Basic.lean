import ConfigTree.Number.Format

namespace ConfigTree

/-- A configuration value. -/
inductive Value where
  | bool (b : Bool)
  | int (i : Int)
  | float (x : Double)
  | str (s : String)
  | list (items : List Value)
  | node (entries : List (String × Value))
deriving Inhabited, Repr

/-- The entries of a configuration node, sorted by key. -/
abbrev Node := List (String × Value)

namespace Node

/-- The node without entries. -/
def empty : Node := []

/-- The value under a key. -/
def find? (n : Node) (k : String) : Option Value := List.lookup k n

/-- Puts a value under a key, replacing what was there and keeping the keys sorted. -/
def set (k : String) (v : Value) : Node → Node
  | [] => [(k, v)]
  | (k', v') :: rest =>
    if k < k' then (k, v) :: (k', v') :: rest
    else if k = k' then (k, v) :: rest
    else (k', v') :: set k v rest

/-- The keys, in order. -/
def keys (n : Node) : List String := n.map (·.1)

end Node

namespace Value

/-- The name of a value's kind, as conversion errors report it. -/
def kind : Value → String
  | .bool _ => "bool"
  | .int _ => "integer"
  | .float _ => "float"
  | .str _ => "string"
  | .list _ => "list"
  | .node _ => "node"

/-- The entries of a node value. -/
def asNode? : Value → Option Node
  | .node n => some n
  | _ => none

/-- The text of a text value. -/
def asStr? : Value → Option String
  | .str s => some s
  | _ => none

/-- Whether the value is a node. -/
def isNode : Value → Bool
  | .node _ => true
  | _ => false

end Value

end ConfigTree
