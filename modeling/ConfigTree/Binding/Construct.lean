import ConfigTree.Binding.Instance

namespace ConfigTree

open EngineM

/-- What a pop does when its key is absent, once a preset default has been bound. -/
inductive Absence where
  | require
  | zero
  | given (b : Bound)
  | convert (v : Value)
  | fallback (n : Node)
deriving Inhabited

/-- The fields a constructor has yet to consume, with how many were declared and consumed. -/
structure FieldQueue where
  pending : List Descriptor
  declared : Nat
  consumed : Nat
deriving Inhabited

/-- The queue after a pop that failed: a pop takes its field before binding it, and finds none in an
empty queue. -/
def FieldQueue.advance (q : FieldQueue) : FieldQueue :=
  match q.pending with
  | [] => q
  | _ :: rest => ⟨rest, q.declared, q.consumed + 1⟩

/-- The zero value of a scalar target: zero numbers, `false`, the empty text and the empty node;
characters, configuration values and variants have none. -/
def Target.zero? : Target → Option Typed
  | .int k => some (.int k 0)
  | .f32 => some (.f32 (Single.ofInt 0))
  | .f64 => some (.f64 (Double.ofInt 0))
  | .bool => some (.bool false)
  | .string => some (.str "")
  | .node => some (.node [])
  | _ => none

/-- The member for an identity marker: the backing node, for a shape that can hold it. -/
def Shape.fromIdentity? (node : Node) : Shape → Option Bound
  | .scalar .node => some (.typed (.node node))
  | .option s => (s.fromIdentity? node).map .present
  | _ => none

/-- The member for a parent marker: the nearest enclosing instance, for a parent reference. -/
def Shape.fromParent? (ctx : Context) : Shape → Option Bound
  | .parent c => some (.parent c (ctx.parentOf c))
  | _ => none

/-- What a pop does when its key is absent, once `bindPreset` has bound a preset default. -/
def PopRule.absence (bindPreset : Value → EngineM Bound) : PopRule → EngineM Absence
  | .require => pure .require
  | .zero => pure .zero
  | .preset v => do pure (.given (← bindPreset v))
  | .convert v => pure (.convert v)
  | .fallback n => pure (.fallback n)

/-- One step of a field-style constructor: a blank field is rendered without consuming anything; a
pop binds its preset default, if any, then pops the queue with `pop` and keeps the value under its
name; a dropped pop does the same but keeps nothing, and on a configuration error goes on with the
queue advanced past the field the pop took. -/
def FieldStep.run (bindValue : Shape → Value → EngineM Bound)
    (pop : FieldQueue → Shape → Absence → EngineM (FieldQueue × Bound))
    (acc : FieldQueue × List (String × Slot)) :
    FieldStep → EngineM (FieldQueue × List (String × Slot))
  | .blank name => pure (acc.1, acc.2 ++ [(name, .blank)])
  | .pop name shape rule => do
    let absence ← rule.absence (bindValue shape)
    let (queue, b) ← pop acc.1 shape absence
    pure (queue, match name with
      | some n => acc.2 ++ [(n, .bound b)]
      | none => acc.2)
  | .discard shape rule => do
    let absence ← rule.absence (bindValue shape)
    let queue ← recover (do pure (← pop acc.1 shape absence).1) (pure acc.1.advance)
    pure (queue, acc.2)

/-- One step of a getter-style constructor with the descriptors `ds` of its members: binds getter
`g` after the slots bound so far, through `bindValue` for the value under its key and `zeroValue`
for an absent key. -/
def bindGetter (bindValue : Shape → Value → EngineM Bound)
    (zeroValue : Shape → EngineM (Option Bound)) (ctx : Context) (ds : List Descriptor)
    (slots : List (String × Slot)) (g : GetterDecl) : EngineM (List (String × Slot)) :=
  let descriptor (name : String) : EngineM Descriptor :=
    match ds.reverse.find? (·.member == name) with
    | some d => pure d
    | none => fail (.markerMisuse ctx.cls.path name "is not a declared property")
  let expect (name : String) (k : BindingKind) : EngineM Descriptor := do
    let d ← descriptor name
    if d.kind == k then pure d
    else fail (.markerMisuse ctx.cls.path name
      ("is declared as " ++ d.kind.name ++ " but bound as " ++ k.name))
  match g.binding with
  | none => pure slots
  | some .property => do
    let d ← descriptor g.name
    match ctx.node.lookup d.logicalName with
    | some v => do pure (slots ++ [(g.name, .bound (← within d.logicalName (bindValue g.valueShape v)))])
    | none => do
      match ← within d.logicalName (zeroValue g.valueShape) with
      | some b => pure (slots ++ [(g.name, .bound b)])
      | none => fail (.missingRequired d.logicalName)
  | some .defaulted => do
    let d ← descriptor g.name
    match ctx.node.lookup d.logicalName with
    | some v => do pure (slots ++ [(g.name, .bound (← within d.logicalName (bindValue g.valueShape v)))])
    | none => do pure (slots ++ [(g.name, .memo (← freshMemo))])
  | some .computed => do
    let _ ← expect g.name .computed
    pure (slots ++ [(g.name, .memo (← freshMemo))])
  | some .identity => do
    let d ← expect g.name .identity
    match g.valueShape.fromIdentity? ctx.node with
    | some b => pure (slots ++ [(g.name, .bound b)])
    | none => fail (.unassignableIdentity ctx.cls.path d.member d.declaredType)
  | some .parent => do
    let _ ← expect g.name .parentRef
    pure (slots ++ [(g.name, .bound (.parent g.target (ctx.parentOf g.target)))])

/-- Fuel for comparing set elements, which nest no deeper than instances do. -/
def snapshotFuel : Nat := 4096

mutual

/-- Materializes an instance of class `c` from `node` under the `enclosing` instances, giving its
id. -/
def materializeIn (cat : Catalogue) (fuel : Nat) (c : ClassRef) (node : Node)
    (enclosing : List (ClassRef × Nat)) : EngineM Nat :=
  match fuel with
  | 0 => throw .exhausted
  | fuel + 1 => do
    if enclosing.length ≥ depthLimit then fail (.depthLimit c.path depthLimit)
    let id ← freshId
    let ctx : Context := ⟨node, (c, id) :: enclosing, c⟩
    let (style, slots) ← match cat.schema c with
      | .fields s => do pure (BindingStyle.fields, ← constructFields cat fuel ctx s)
      | .getters s => do pure (BindingStyle.getters, ← constructGetters cat fuel ctx s)
    publish ⟨c, id, ctx.lineage.length, style, slots⟩
    pure id

/-- Runs a field-style constructor, giving the rendered fields. -/
def constructFields (cat : Catalogue) (fuel : Nat) (ctx : Context) (s : FieldSchema) :
    EngineM (List (String × Slot)) :=
  match fuel with
  | 0 => throw .exhausted
  | fuel + 1 => do
    let descriptors ← ofExcept (classify ctx.cls.path .fields s.settings s.members)
    let pending := descriptors.filter (·.kind != .ignored)
    let start : FieldQueue × List (String × Slot) := (⟨pending, pending.length, 0⟩, [])
    let (queue, slots) ←
      s.steps.foldlM (FieldStep.run (bindValue cat fuel ctx) (popField cat fuel ctx)) start
    if queue.pending.isEmpty then pure slots
    else fail (.arityMismatch ctx.cls.path queue.declared queue.consumed)

/-- Consumes the next field of the queue as a value of `shape`. -/
def popField (cat : Catalogue) (fuel : Nat) (ctx : Context) (queue : FieldQueue) (shape : Shape)
    (absence : Absence) : EngineM (FieldQueue × Bound) :=
  match fuel with
  | 0 => throw .exhausted
  | fuel + 1 =>
    match queue.pending with
    | [] => fail (.arityMismatch ctx.cls.path queue.declared (queue.consumed + 1))
    | d :: rest => do
      let b ← bindField cat fuel ctx d shape absence
      pure (⟨rest, queue.declared, queue.consumed + 1⟩, b)

/-- Binds the field of a descriptor as a value of `shape`: an identity or parent member from the
backing node or the lineage, whatever the pop; otherwise the value under the logical name, or the
pop's rule when the key is absent. -/
def bindField (cat : Catalogue) (fuel : Nat) (ctx : Context) (d : Descriptor) (shape : Shape)
    (absence : Absence) : EngineM Bound :=
  match fuel with
  | 0 => throw .exhausted
  | fuel + 1 =>
    match d.kind with
    | .identity =>
      match shape.fromIdentity? ctx.node with
      | some b => pure b
      | none => fail (.unassignableIdentity ctx.cls.path d.member d.declaredType)
    | .parentRef =>
      match shape.fromParent? ctx with
      | some b => pure b
      | none => fail (.markerMisuse ctx.cls.path d.member
          ("is marked as parent but its type " ++ d.declaredType ++ " is not a parent reference"))
    | _ =>
      match ctx.node.lookup d.logicalName with
      | some v => within d.logicalName (bindValue cat fuel ctx shape v)
      | none =>
        match absence with
        | .require => fail (.missingRequired d.logicalName)
        | .zero => do
          match ← within d.logicalName (zeroValue cat fuel ctx shape) with
          | some b => pure b
          | none => fail (.missingRequired d.logicalName)
        | .given b => pure b
        | .convert v => within d.logicalName (bindValue cat fuel ctx shape v)
        | .fallback n => within d.logicalName (fromNode cat fuel ctx shape n)

/-- Runs a getter-style constructor, giving the bound getters. -/
def constructGetters (cat : Catalogue) (fuel : Nat) (ctx : Context) (s : GetterSchema) :
    EngineM (List (String × Slot)) :=
  match fuel with
  | 0 => throw .exhausted
  | fuel + 1 => do
    let descriptors ← ofExcept (classify ctx.cls.path .getters s.settings s.members)
    s.getters.foldlM (bindGetter (bindValue cat fuel ctx) (zeroValue cat fuel ctx) ctx descriptors) []

/-- Binds a value found under a member's key. -/
def bindValue (cat : Catalogue) (fuel : Nat) (ctx : Context) (shape : Shape) (v : Value) :
    EngineM Bound :=
  match fuel with
  | 0 => throw .exhausted
  | fuel + 1 =>
    let conversion : ConfigError := .conversion v.display v.kind shape.typePath
    let bindItems (s : Shape) : EngineM (List Bound) :=
      match itemsOf? v with
      | none => fail conversion
      | some items => items.zipIdx.mapM fun (item, i) =>
        within ("[" ++ toString i ++ "]") (bindValue cat fuel ctx s item)
    let bindEntries (k : Target) (s : Shape) : EngineM (List (Typed × Bound)) :=
      match v with
      | .node entries => entries.mapM fun (key, item) => within key do
        let bk ← ofExcept (k.read (.str key))
        pure (bk, ← bindValue cat fuel ctx s item)
      | _ => fail conversion
    match shape with
    | .scalar t => do pure (.typed (← ofExcept (t.read v)))
    | .option s => do pure (.present (← bindValue cat fuel ctx s v))
    | .list s => do pure (.items (← bindItems s))
    | .unorderedSet s => do
      let bs ← bindItems s
      let st ← get
      let same (a b : Bound) : Bool :=
        (st.snapshot snapshotFuel a).compact == (st.snapshot snapshotFuel b).compact
      pure (.unordered (distinctFirst same bs))
    | .orderedSet s => do
      let bs ← bindItems s
      match s with
      | .scalar t =>
        let key : Bound → Typed
          | .typed x => x
          | _ => .str ""
        pure (.items (orderedLast (fun a b => t.before (key a) (key b)) bs))
      | _ => pure (.items bs)
    | .unorderedMap k s => do
      pure (.unorderedEntries (distinctLastBy (fun a b => a.text == b.text) (← bindEntries k s)))
    | .orderedMap k s => do
      pure (.entries (orderedLast (fun a b => k.before a.1 b.1) (← bindEntries k s)))
    | .guarded _ s => bindValue cat fuel ctx s v
    | .atomic t => do pure (.typed (← ofExcept (t.read v)))
    | .nested c =>
      match v with
      | .node n => do pure (.inst (← materializeIn cat fuel c n ctx.lineage))
      | _ => fail (.conversion v.display v.kind c.path)
    | .parent _ => fail (.unresolvableTarget shape.typePath none)

/-- The value of a member whose key is absent, `none` when the shape has no zero value. -/
def zeroValue (cat : Catalogue) (fuel : Nat) (ctx : Context) (shape : Shape) :
    EngineM (Option Bound) :=
  match fuel with
  | 0 => throw .exhausted
  | fuel + 1 =>
    match shape with
    | .scalar t => pure (t.zero?.map .typed)
    | .option _ => pure (some .absent)
    | .list _ | .orderedSet _ => pure (some (.items []))
    | .unorderedSet _ => pure (some (.unordered []))
    | .unorderedMap _ _ => pure (some (.unorderedEntries []))
    | .orderedMap _ _ => pure (some (.entries []))
    | .guarded _ s => zeroValue cat fuel ctx s
    | .atomic t => pure (t.zero?.map .typed)
    | .nested c => do pure (some (.inst (← materializeIn cat fuel c [] ctx.lineage)))
    | .parent _ => pure none

/-- Materializes a member from a whole node: a node as it is, a nested class from it, an option of
either; other shapes cannot be. -/
def fromNode (cat : Catalogue) (fuel : Nat) (ctx : Context) (shape : Shape) (n : Node) :
    EngineM Bound :=
  match fuel with
  | 0 => throw .exhausted
  | fuel + 1 =>
    match shape with
    | .scalar .node => pure (.typed (.node n))
    | .nested c => do pure (.inst (← materializeIn cat fuel c n ctx.lineage))
    | .option s => do pure (.present (← fromNode cat fuel ctx s n))
    | _ => fail (.unresolvableTarget shape.typePath none)

end

end ConfigTree
