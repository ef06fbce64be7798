import ConfigTree.Binding.Evaluate
import ConfigTree.Node.Debug
import ConfigTree.Text.Quote

namespace ConfigTree

open EngineM

/-- The dump of a value read as a declared type. -/
def Typed.debug : Typed → String
  | .int _ i => toString i
  | .f32 x => x.render .debug
  | .f64 x => x.render .debug
  | .bool b => if b then "true" else "false"
  | .str s => Text.debugQuote s
  | .char c => Text.debugCharQuote c
  | .node n => n.debug
  | .value v => v.debug
  | .enum v => v
  | .list items => "[" ++ ", ".intercalate (items.map Typed.debug) ++ "]"

/-- The dump of a member's zero value, for fields that are never read. -/
def Shape.zeroDebug : Shape → String
  | .scalar t => (t.zero?.map Typed.debug).getD "None"
  | .option _ => "None"
  | .list _ => "[]"
  | .unorderedSet _ | .orderedSet _ | .unorderedMap _ _ | .orderedMap _ _ => "\x7b\x7d"
  | .guarded _ s => s.zeroDebug
  | .atomic t => (t.zero?.map Typed.debug).getD "0"
  | .nested c => c.name
  | .parent c => "Parent<" ++ c.path ++ ">(absent)"

/-- The dump of a result in output form, read back as a value of a shape. -/
def Shape.debugJson : Shape → Json → String
  | .option _, .null => "None"
  | .option s, j => "Some(" ++ s.debugJson j ++ ")"
  | .list s, .arr items => "[" ++ ", ".intercalate (items.map s.debugJson) ++ "]"
  | .guarded _ s, j => s.debugJson j
  | .scalar t, j | .atomic t, j =>
    match (Value.ofJson j).map t.read with
    | some (.ok r) => r.debug
    | _ => j.compact
  | _, j => j.compact

/-- A struct dump: the name alone without members, else the name and `name: value` pairs. -/
def structDump (name : String) (members : List (String × String)) : String :=
  if members.isEmpty then name
  else name ++ " \x7b " ++ ", ".intercalate (members.map fun (k, v) => k ++ ": " ++ v) ++ " \x7d"

/-- A display text: the name and `name=value` pairs in braces. -/
def displayText (name : String) (members : List (String × String)) : String :=
  name ++ "\x7b" ++ ", ".intercalate (members.map fun (k, v) => k ++ "=" ++ v) ++ "\x7d"

/-- Whether a field is shown in display texts: read from the node, not skipped, identity or parent.
-/
def FieldDecl.shown (f : FieldDecl) : Bool :=
  match f.attr with
  | .skip | .identity | .parent => false
  | _ => true

/-- Whether a getter is shown in dumps and display texts: a property or a defaulted getter. -/
def GetterDecl.shown (g : GetterDecl) : Bool :=
  g.binding == some .property || g.binding == some .defaulted

mutual

/-- The dump of a bound value. -/
def dumpBound (cat : Catalogue) (fuel : Nat) (b : Bound) : EngineM String :=
  match fuel with
  | 0 => throw .exhausted
  | fuel + 1 =>
    match b with
    | .typed t => pure t.debug
    | .absent => pure "None"
    | .present b => do pure ("Some(" ++ (← dumpBound cat fuel b) ++ ")")
    | .items bs => do pure ("[" ++ ", ".intercalate (← bs.mapM (dumpBound cat fuel)) ++ "]")
    | .unordered bs => do
      let ds ← bs.mapM (dumpBound cat fuel)
      pure ("\x7b" ++ ", ".intercalate (ds.mergeSort fun a b => decide (a ≤ b)) ++ "\x7d")
    | .entries kvs => do
      let ds ← kvs.mapM fun (k, v) => do pure (k.debug ++ ": " ++ (← dumpBound cat fuel v))
      pure ("\x7b" ++ ", ".intercalate ds ++ "\x7d")
    | .unorderedEntries kvs => do
      let ds ← kvs.mapM fun (k, v) => do pure (k.debug ++ ": " ++ (← dumpBound cat fuel v))
      pure ("\x7b" ++ ", ".intercalate (ds.mergeSort fun a b => decide (a ≤ b)) ++ "\x7d")
    | .inst id => dumpInstance cat fuel id
    | .parent c a =>
      pure ("Parent<" ++ c.path ++ ">(" ++ (if a.isSome then "linked" else "absent") ++ ")")

/-- The dump of a getter's value: its bound value, or its result read back as its type. -/
def dumpGetter (cat : Catalogue) (fuel : Nat) (i : Instance) (g : GetterDecl) : EngineM String :=
  match fuel with
  | 0 => throw .exhausted
  | fuel + 1 =>
    match i.slots.lookup g.name with
    | some (.bound b) => dumpBound cat fuel b
    | _ => do pure (g.valueShape.debugJson (← callGetter cat fuel i.id g.name))

/-- The dump of an instance. -/
def dumpInstance (cat : Catalogue) (fuel : Nat) (id : Nat) : EngineM String :=
  match fuel with
  | 0 => throw .exhausted
  | fuel + 1 => do
    match (← get).instance? id with
    | none => pure "None"
    | some i =>
      match cat.schema i.cls with
      | .fields s => do
        let members ← s.fields.filterMapM fun f => do
          match i.slots.lookup f.name with
          | some (.bound b) => pure (some (f.name, ← dumpBound cat fuel b))
          | some _ => pure (some (f.name, f.shape.zeroDebug))
          | none => pure none
        pure (structDump i.cls.name members)
      | .getters s => do
        let members ← (s.getters.filter (·.shown)).mapM fun g => do
          pure (g.name, ← dumpGetter cat fuel i g)
        pure (structDump i.cls.name members)

end

/-- The display text of an instance. -/
def displayInstance (cat : Catalogue) (fuel : Nat) (id : Nat) : EngineM String := do
  match (← get).instance? id with
  | none => pure ""
  | some i =>
    match cat.schema i.cls with
    | .fields s => do
      let members ← (s.fields.filter (·.shown)).filterMapM fun f => do
        match i.slots.lookup f.name with
        | some (.bound b) => pure (some (f.name, ← dumpBound cat fuel b))
        | _ => pure none
      pure (displayText i.cls.name members)
    | .getters s => do
      let members ← (s.getters.filter (·.shown)).mapM fun g => do
        pure (g.name, ← dumpGetter cat fuel i g)
      pure (displayText i.cls.name members)

end ConfigTree
