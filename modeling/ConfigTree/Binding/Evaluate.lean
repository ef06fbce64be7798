import ConfigTree.Binding.Construct

namespace ConfigTree

open EngineM

/-- The log entry of a body run on an instance. -/
def Instance.evalEntry (i : Instance) (getter : String) : String :=
  i.cls.name ++ "#" ++ toString i.id ++ "." ++ getter

/-- The message of a default body that depends on itself. -/
def selfDependence (getter : String) : String :=
  "Default implementation of getter: " ++ getter ++ " depends on itself."

/-- The instance a parent slot of an instance refers to, when it has one. -/
def EngineState.slotAncestor? (st : EngineState) (self : Nat) (slot : String) : Option Instance := do
  let i ← st.instance? self
  match i.slots.lookup slot with
  | some (.bound (.parent _ (some a))) => st.instance? a
  | _ => none

mutual

/-- Calls a getter of an instance by name. -/
def callGetter (cat : Catalogue) (fuel : Nat) (self : Nat) (name : String) : EngineM Json :=
  match fuel with
  | 0 => throw .exhausted
  | fuel + 1 => do
    match (← get).instance? self with
    | none => pure .null
    | some i =>
      match cat.schema i.cls with
      | .fields _ => pure .null
      | .getters s =>
        match s.find? name with
        | none => pure .null
        | some g =>
          match g.binding, i.slots.lookup name with
          | none, _ => do
            logEval (i.evalEntry name)
            evalBody cat fuel self g.body
          | some _, some (.bound b) => renderBound cat fuel b
          | some _, some (.memo c) => do
            match ← memo c with
            | .ready j => pure j
            | .evaluating => throw (.panic (selfDependence name))
            | .pending => do
              setMemo c .evaluating
              logEval (i.evalEntry name)
              let j ← evalBody cat fuel self g.body
              setMemo c (.ready j)
              pure j
          | some _, _ => pure .null

/-- Evaluates a default body on an instance. -/
def evalBody (cat : Catalogue) (fuel : Nat) (self : Nat) (b : Body) : EngineM Json :=
  match fuel with
  | 0 => throw .exhausted
  | fuel + 1 =>
    match b with
    | .literal j => pure j
    | .get m => callGetter cat fuel self m
    | .inc b => do pure (Body.increment (← evalBody cat fuel self b))
    | .concat parts => do
      let js ← parts.mapM (evalBody cat fuel self)
      pure (.str (String.join (js.map Body.piece)))
    | .seq steps => do
      let js ← steps.mapM (evalBody cat fuel self)
      pure (js.getLast?.getD .null)
    | .parentGet p m otherwise => do
      match (← get).slotAncestor? self p with
      | some a => memberOf cat fuel a m
      | none => evalBody cat fuel self otherwise
    | .convert t b => do
      let j ← evalBody cat fuel self b
      pure (match (Value.ofJson j).map t.read with
        | some (.ok r) => r.render
        | _ => .null)
    | .ifParent p present absent => do
      match (← get).slotAncestor? self p with
      | some _ => evalBody cat fuel self present
      | none => evalBody cat fuel self absent

/-- A member of an instance: the rendering of a field, or the value of a getter. -/
def memberOf (cat : Catalogue) (fuel : Nat) (i : Instance) (m : String) : EngineM Json :=
  match fuel with
  | 0 => throw .exhausted
  | fuel + 1 =>
    match i.style with
    | .getters => callGetter cat fuel i.id m
    | .fields =>
      match i.slots.lookup m with
      | some (.bound b) => renderBound cat fuel b
      | _ => pure .null

/-- The output form of a bound value. -/
def renderBound (cat : Catalogue) (fuel : Nat) (b : Bound) : EngineM Json :=
  match fuel with
  | 0 => throw .exhausted
  | fuel + 1 =>
    match b with
    | .typed t => pure t.render
    | .absent => pure .null
    | .present b => renderBound cat fuel b
    | .items bs => do pure (.arr (← bs.mapM (renderBound cat fuel)))
    | .unordered bs => do pure (.arr (sortByText (← bs.mapM (renderBound cat fuel))))
    | .entries kvs => do
      pure (.arr (← kvs.mapM fun (k, v) => do pure (.arr [k.render, ← renderBound cat fuel v])))
    | .unorderedEntries kvs => do
      let ps ← kvs.mapM fun (k, v) => do pure (k.render, ← renderBound cat fuel v)
      pure (.arr ((sortPairsByText ps).map fun (k, v) => .arr [k, v]))
    | .inst id => renderInstance cat fuel id
    | .parent _ a =>
      pure (.obj [("id", match a with
        | some i => .int i
        | none => .null), ("linked", .bool a.isSome)])

/-- The output form of an instance. -/
def renderInstance (cat : Catalogue) (fuel : Nat) (id : Nat) : EngineM Json :=
  match fuel with
  | 0 => throw .exhausted
  | fuel + 1 => do
    match (← get).instance? id with
    | none => pure .null
    | some i =>
      let (label, members) ← match i.style with
        | .fields => do
          let fields ← i.slots.mapM fun (n, s) => do
            let v ← match s with
              | .bound b => renderBound cat fuel b
              | _ => pure .null
            pure (Json.arr [.str n, v])
          pure ("fields", fields)
        | .getters => do
          let getters ← i.slots.mapM fun (n, _) => do pure (Json.arr [.str n, ← callGetter cat fuel id n])
          pure ("getters", getters)
      pure (.obj [("depth", .int i.depth), (label, .arr members), ("id", .int i.id),
        ("type", .str i.cls.name)])

end

/-- Completes one instance: a getter-style instance calls its defaulted getters, then its computed
ones, in declaration order. -/
def completeInstance (cat : Catalogue) (fuel : Nat) (i : Instance) : EngineM Unit :=
  match cat.schema i.cls with
  | .fields _ => pure ()
  | .getters s => do
    for g in s.getters.filter (·.binding == some .defaulted) do
      let _ ← callGetter cat fuel i.id g.name
    for g in s.getters.filter (·.binding == some .computed) do
      let _ ← callGetter cat fuel i.id g.name

/-- Bound on the nesting of construction calls: instances nest at most `depthLimit` deep, and each
level takes four calls from an instance to the value of one of its members, plus one per level of
the member's shape. -/
def constructionFuel (cat : Catalogue) : Nat := depthLimit * (cat.shapeDepth + 4) + 1

/-- Bound on the nesting of getter calls, body evaluations and rendering. -/
def evaluationFuel : Nat := 10000

/-- Materializes an instance of `root` from a node, completes every instance in the order
construction finished, getter calls nested at most `fuel` deep, and then runs `k` on the id of the
outermost instance. -/
def materializeThen {α : Type} (cat : Catalogue) (fuel : Nat) (root : ClassRef) (node : Node)
    (k : Nat → EngineM α) : Except Failure (α × EngineState) :=
  let run : EngineM α := do
    let id ← materializeIn cat (constructionFuel cat) root node []
    for i in (← get).finished do
      completeInstance cat fuel i
    k id
  run.run {}

/-- Materializes an instance of `root` from a node and renders it; also gives the log of body
evaluations. -/
def materialize (cat : Catalogue) (root : ClassRef) (node : Node) :
    Except Failure (Json × List String) := do
  let (j, st) ← materializeThen cat evaluationFuel root node (renderInstance cat evaluationFuel)
  pure (j, st.evals.toList)

end ConfigTree
