import ConfigTree.Render
import ConfigTree.TypeExpr

namespace ConfigTree

/-- The target a type expression names; `enums` are the enumerations in scope. -/
def Target.ofExpr (enums : List EnumDecl) : TypeExpr → Option Target
  | .app "Vec" [t] => (Target.ofExpr enums t).map .list
  | .app name [] =>
    match IntKind.ofName? name with
    | some k => some (.int k)
    | none =>
      match name with
      | "f32" => some .f32
      | "f64" => some .f64
      | "bool" => some .bool
      | "String" => some .string
      | "char" => some .char
      | "Node" => some .node
      | "Value" => some .value
      | _ => (enums.find? (·.name == name)).map .enum
  | _ => none

/-- The target a type text names. -/
def Target.parse? (enums : List EnumDecl) (s : String) : Option Target :=
  (TypeExpr.parse? s).bind (Target.ofExpr enums)

/-- The compact text of a read value's output form. -/
def Typed.text (t : Typed) : String := t.render.compact

/-- Elements ordered by their compact text, each text once, the first occurrence kept. -/
def orderedDistinct (xs : List Typed) : List Typed :=
  let distinct := xs.foldl (fun acc x => if acc.any (·.text == x.text) then acc else acc ++ [x]) []
  distinct.mergeSort fun a b => decide (a.text ≤ b.text)

/-- Pairs ordered by the compact text of their keys, each key once, the later pair winning. -/
def orderedEntries (xs : List (Typed × Typed)) : List (Typed × Typed) :=
  let distinct := xs.foldl (fun acc (k, v) => (acc.filter (·.1.text != k.text)) ++ [(k, v)]) []
  distinct.mergeSort fun a b => decide (a.1.text ≤ b.1.text)

namespace Node

/-- The value at a path read as a target: `none` when absent, a failure keyed by the path. -/
def tryGet (n : Node) (path : String) (t : Target) : Except ConfigError (Option Typed) :=
  match n.lookup path with
  | none => .ok none
  | some v =>
    match t.read v with
    | .ok r => .ok (some r)
    | .error e => .error (e.within path)

/-- The value at a path read as a target, when present and readable. -/
def get? (n : Node) (path : String) (t : Target) : Option Typed :=
  match n.tryGet path t with
  | .ok r => r
  | .error _ => none

/-- The items at a path, each read as a target. -/
def getList (n : Node) (path : String) (t : Target) : Option (List Typed) :=
  match (n.lookup path).bind itemsOf? with
  | none => none
  | some items =>
    match items.mapM t.read with
    | .ok xs => some xs
    | .error _ => none

/-- The distinct items at a path, each read as a target. -/
def getSet (n : Node) (path : String) (t : Target) : Option (List Typed) :=
  (n.getList path t).map orderedDistinct

/-- The entries of the node at a path, keys read from their text and values as targets. -/
def getMap (n : Node) (path : String) (keyTarget valueTarget : Target) :
    Option (List (Typed × Typed)) :=
  match n.getNode? path with
  | none => none
  | some entries =>
    match entries.mapM (fun (k, v) => do pure (← keyTarget.read (.str k), ← valueTarget.read v)) with
    | .ok xs => some (orderedEntries xs)
    | .error _ => none

end Node

end ConfigTree
