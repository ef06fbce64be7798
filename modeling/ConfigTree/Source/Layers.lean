import ConfigTree.Node.Json
import ConfigTree.Source.Env
import ConfigTree.Node.Resolve
import ConfigTree.Node.Tree

namespace ConfigTree

/-- The file layer: none, a file that is not there (by its path), or the text of a file. -/
inductive FileLayer where
  | none
  | missing (path : String)
  | present (text : String)
deriving Repr, Inhabited

/-- The layers of a configuration and whether to resolve templates after merging them. -/
structure Layers where
  defaults : Option String := none
  file : FileLayer := .none
  env : Option (EnvSource × List (String × String)) := none
  resolveTemplates : Bool := false
deriving Inhabited

/-- The node a document holds, as `extract` hands the document over: a document it rejects fails the
load, and so does one that is not an object. -/
def readLayer (extract : String → Except String Json) (text : String) : Except ConfigError Node :=
  match extract text with
  | .ok j => Node.ofJson j
  | .error reason => .error (.malformedDocument reason)

namespace Layers

/-- Loads and merges the layers, documents read through `extract`, then resolves templates if asked
to. -/
def load (extract : String → Except String Json) (l : Layers) : Except ConfigError Node := do
  let defaults ← match l.defaults with
    | some text => do pure [← readLayer extract text]
    | none => pure []
  let file ← match l.file with
    | .none => pure []
    | .missing path =>
      if l.defaults.isSome then pure []
      else throw (.cannotLoad ("configuration file not found: '" ++ path ++ "'"))
    | .present text => do pure [← readLayer extract text]
  let env := match l.env with
    | some (src, vars) => [src.read vars]
    | none => []
  let node := Node.mergeAll (defaults ++ file ++ env)
  pure (if l.resolveTemplates then node.resolveSelf else node)

end Layers

end ConfigTree
