import ConfigTree.Node.Basic
import ConfigTree.Number.Layout
import ConfigTree.Text.Quote

namespace ConfigTree

mutual

/-- The dump of a value. -/
def Value.debug : Value → String
  | .bool b => "Bool(" ++ (if b then "true" else "false") ++ ")"
  | .int i => "Int(" ++ toString i ++ ")"
  | .float x => "Float(" ++ x.render .debug ++ ")"
  | .str s => "String(" ++ Text.debugQuote s ++ ")"
  | .list items => "List([" ++ ", ".intercalate (Value.debugItems items) ++ "])"
  | .node entries => "Node(\x7b" ++ ", ".intercalate (Value.debugEntries entries) ++ "\x7d)"

/-- The dumps of list items. -/
def Value.debugItems : List Value → List String
  | [] => []
  | v :: rest => Value.debug v :: Value.debugItems rest

/-- The dumps of node entries. -/
def Value.debugEntries : List (String × Value) → List String
  | [] => []
  | (k, v) :: rest => (Text.debugQuote k ++ ": " ++ Value.debug v) :: Value.debugEntries rest

end

/-- The dump of a node. -/
def Node.debug (n : Node) : String := "\x7b" ++ ", ".intercalate (Value.debugEntries n) ++ "\x7d"

end ConfigTree
