import ConfigTree.Coerce

namespace ConfigTree

mutual

/-- The tagged form of a value. -/
def Value.tagged : Value → Json
  | .bool b => .obj [("bool", .bool b)]
  | .int i => .obj [("int", .str (toString i))]
  | .float x => .obj [("float", .str (x.render .plain))]
  | .str s => .obj [("str", .str s)]
  | .list items => .obj [("list", .arr (Value.taggedItems items))]
  | .node entries => .obj [("node", .obj (Value.taggedEntries entries))]

/-- The tagged forms of list items. -/
def Value.taggedItems : List Value → List Json
  | [] => []
  | v :: rest => Value.tagged v :: Value.taggedItems rest

/-- The tagged forms of node entries. -/
def Value.taggedEntries : List (String × Value) → List (String × Json)
  | [] => []
  | (k, v) :: rest => (k, Value.tagged v) :: Value.taggedEntries rest

end

/-- The tagged form of a node. -/
def Node.tagged (n : Node) : Json := Value.tagged (.node n)

/-- The output form of a value read as a declared type. -/
def Typed.render : Typed → Json
  | .int _ i => .str (toString i)
  | .f32 x => .str (x.render .plain)
  | .f64 x => .str (x.render .plain)
  | .bool b => .bool b
  | .str s => .str s
  | .char c => .str (String.singleton c)
  | .node n => Node.tagged n
  | .value v => v.tagged
  | .enum variant => .str variant
  | .list items => .arr (items.map Typed.render)

end ConfigTree
