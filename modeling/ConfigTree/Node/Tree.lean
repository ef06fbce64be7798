import ConfigTree.Node.Basic

namespace ConfigTree

mutual

/-- Merges `incoming` into `existing`. -/
def Value.merge : Value → Value → Value
  | .node cur, .node next => .node (Node.mergeEntries cur next)
  | .node cur, _ => .node cur
  | _, incoming => incoming

/-- Merges the entries of a node, in order, into `target`. -/
def Node.mergeEntries (target : Node) : List (String × Value) → Node
  | [] => target
  | (k, v) :: rest =>
    let target := match target.find? k with
      | some existing => target.set k (Value.merge existing v)
      | none => target.set k v
    Node.mergeEntries target rest

end

namespace Node

/-- Merges the later nodes into this one, in order. -/
def merge (base : Node) (others : List Node) : Node := others.foldl mergeEntries base

/-- Merges nodes in order into the empty node. -/
def mergeAll (nodes : List Node) : Node := merge empty nodes

/-- Merges a value in at a path of segments, creating nodes on the way. -/
def insertPath (n : Node) : List String → Value → Node
  | [], _ => n
  | [k], v =>
    match n.find? k with
    | some existing => n.set k (existing.merge v)
    | none => n.set k v
  | k :: k2 :: rest, v =>
    let child := match n.find? k with
      | some (.node c) => c
      | _ => empty
    n.set k (.node (insertPath child (k2 :: rest) v))

/-- Splits a dotted key into its segments. -/
def segments (key : String) : List String := key.splitOn "."

/-- Builds a node from dotted keys and values, in order. -/
def ofPairs (pairs : List (String × Value)) : Node :=
  pairs.foldl (fun n (k, v) => n.insertPath (segments k) v) empty

/-- The value at the end of a path of segments. -/
def lookupSegments (n : Node) : List String → Option Value
  | [] => none
  | [k] => n.find? k
  | k :: k2 :: rest =>
    match n.find? k with
    | some (.node c) => lookupSegments c (k2 :: rest)
    | _ => none

/-- The value at a dotted path. -/
def lookup (n : Node) (path : String) : Option Value := n.lookupSegments (segments path)

/-- Whether a dotted path holds a value. -/
def has (n : Node) (path : String) : Bool := (n.lookup path).isSome

/-- The node at a dotted path. -/
def getNode? (n : Node) (path : String) : Option Node := (n.lookup path).bind Value.asNode?

end Node

end ConfigTree
