import ConfigTree.Node.Tree
import ConfigTree.Text.Case
import ConfigTree.Text.Split

namespace ConfigTree

/-- Where environment variables are read from: the text their names start with (`head`), and the
separator of path segments. -/
structure EnvSource where
  head : String
  separator : String := "__"
deriving Repr, Inhabited

namespace EnvSource

/-- The dotted path a variable name stands for. -/
def configPath? (src : EnvSource) (name : String) : Option String :=
  if !name.startsWith src.head then none
  else
    let stripped := String.ofList (name.toList.drop src.head.length)
    if stripped.isEmpty || src.separator.isEmpty then none
    else
      let segments := Text.splitOnText (Text.toLower stripped) src.separator
      if segments.any (·.isEmpty) then none else some (".".intercalate segments)

/-- The index a key names: decimal digits with an optional `+`, below `2^64`. -/
def index? (key : String) : Option Nat :=
  let digits := match key.toList with
    | '+' :: rest => rest
    | cs => cs
  if digits.isEmpty || !digits.all Char.isDigit then none
  else
    let n := digits.foldl (fun acc c => acc * 10 + (c.toNat - '0'.toNat)) 0
    if n < Nat.pow 2 64 then some n else none

/-- The entries of a node as list slots, if every key is an index and the list is dense enough. -/
def asList? (entries : List (String × Value)) : Option (List Value) :=
  if entries.isEmpty then none
  else
    match entries.mapM fun e => (index? e.1).map (·, e.2) with
    | none => none
    | some indexed =>
      -- of two keys naming one index, the later key in order wins
      let slots := indexed.foldl (fun acc e => acc.filter (·.1 != e.1) ++ [e]) []
      let top := slots.foldl (fun m e => max m e.1) 0
      -- one past the greatest index is a machine word, and so is the room of four slots per index
      if top + 1 ≤ min (4 * slots.length) (Nat.pow 2 64 - 1) then
        some ((List.range (top + 1)).map fun i => (slots.lookup i).getD (.node []))
      else none

mutual

/-- Turns index nodes into lists, bottom-up. -/
def listify : Value → Value
  | .node entries =>
    let entries := listifyEntries entries
    match asList? entries with
    | some items => .list items
    | none => .node entries
  | .list items => .list (listifyItems items)
  | other => other

/-- Turns index nodes into lists inside list items. -/
def listifyItems : List Value → List Value
  | [] => []
  | v :: rest => listify v :: listifyItems rest

/-- Turns index nodes into lists inside node entries. -/
def listifyEntries : List (String × Value) → List (String × Value)
  | [] => []
  | (k, v) :: rest => (k, listify v) :: listifyEntries rest

end

/-- Puts a variable's text at its path, when the variable counts. -/
def addVar (src : EnvSource) (acc : List (String × Value)) (x : String × String) :
    List (String × Value) :=
  if x.2.isEmpty then acc
  else
    match src.configPath? x.1 with
    | none => acc
    | some path => Node.set path (.str x.2) acc

/-- The paths of the variables that count, in path order, each holding its variable's text; of two
variables of one path the later wins. -/
def pathEntries (src : EnvSource) (vars : List (String × String)) : List (String × Value) :=
  vars.foldl src.addVar []

/-- The node of a list of variables, in the order given. -/
def read (src : EnvSource) (vars : List (String × String)) : Node :=
  match listify (.node (Node.ofPairs (src.pathEntries vars))) with
  | .node n => n
  | _ => Node.empty

end EnvSource

end ConfigTree
