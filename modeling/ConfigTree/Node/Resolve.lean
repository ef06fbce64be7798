import ConfigTree.Coerce
import ConfigTree.Template

namespace ConfigTree

/-- The text at a dotted path: a leaf written as its text; lists and nodes have none. -/
def Node.getString (n : Node) (path : String) : Option String :=
  (n.lookup path).bind fun v =>
    match readString v with
    | .ok s => some s
    | .error _ => none

mutual

/-- The number of values in a value, itself included. -/
def Value.size : Value → Nat
  | .list items => Value.itemsSize items + 1
  | .node entries => Value.entriesSize entries + 1
  | _ => 1

/-- The number of values in list items. -/
def Value.itemsSize : List Value → Nat
  | [] => 0
  | v :: rest => Value.size v + Value.itemsSize rest

/-- The number of values in node entries. -/
def Value.entriesSize : List (String × Value) → Nat
  | [] => 0
  | (_, v) :: rest => Value.size v + Value.entriesSize rest

end

/-- Resolves a text with keys of `visiting` already being expanded. -/
def resolveText (lookup : Node) : Nat → List String → String → String
  | 0, _, s => s
  | fuel + 1, visiting, s =>
    Id.run <| Template.substitute (m := Id) (fun key =>
      if visiting.contains key then none
      else (lookup.getString key).map fun raw => resolveText lookup fuel (key :: visiting) raw) s

mutual

/-- Resolves the text leaves of a value. -/
def Value.resolveWith (lookup : Node) (fuel : Nat) : Value → Value
  | .str s => .str (resolveText lookup fuel [] s)
  | .list items => .list (Value.resolveItems lookup fuel items)
  | .node entries => .node (Value.resolveEntries lookup fuel entries)
  | other => other

/-- Resolves list items. -/
def Value.resolveItems (lookup : Node) (fuel : Nat) : List Value → List Value
  | [] => []
  | v :: rest => Value.resolveWith lookup fuel v :: Value.resolveItems lookup fuel rest

/-- Resolves node entries. -/
def Value.resolveEntries (lookup : Node) (fuel : Nat) : List (String × Value) → List (String × Value)
  | [] => []
  | (k, v) :: rest => (k, Value.resolveWith lookup fuel v) :: Value.resolveEntries lookup fuel rest

end

/-- Resolves the templates of a node against `lookup`. -/
def Node.resolve (n lookup : Node) : Node :=
  Value.resolveEntries lookup (Value.entriesSize lookup + 1) n

/-- Resolves the templates of a node against itself. -/
def Node.resolveSelf (n : Node) : Node := n.resolve n

end ConfigTree
