import ConfigTree.Binding.Schema

namespace ConfigTree

/-- A value bound to a member. -/
inductive Bound where
  | typed (t : Typed)
  | absent
  | present (b : Bound)
  | items (bs : List Bound)
  | unordered (bs : List Bound)
  | entries (kvs : List (Typed × Bound))
  | unorderedEntries (kvs : List (Typed × Bound))
  | inst (id : Nat)
  | parent (c : ClassRef) (ancestor : Option Nat)
deriving Inhabited

/-- A member of an instance: a blank field, a bound value, or a memo cell. -/
inductive Slot where
  | blank
  | bound (b : Bound)
  | memo (cell : Nat)
deriving Inhabited

/-- A constructed instance: its class, id, depth in the lineage (1 for the outermost), style and
members in declaration order. -/
structure Instance where
  cls : ClassRef
  id : Nat
  depth : Nat
  style : BindingStyle
  slots : List (String × Slot)
deriving Inhabited

/-- The state of a memo cell. -/
inductive MemoCell where
  | pending
  | evaluating
  | ready (j : Json)
deriving Inhabited

/-- Why a materialization stops. -/
inductive Failure where
  | config (e : ConfigError)
  | panic (message : String)
  | exhausted
deriving Inhabited

/-- The state of one materialization: the next id, the finished instances in completion order, the
memo cells, and the log of body evaluations. -/
structure EngineState where
  nextId : Nat := 0
  finished : Array Instance := #[]
  memos : Array MemoCell := #[]
  evals : Array String := #[]
deriving Inhabited

/-- Computations of a materialization. -/
abbrev EngineM := StateT EngineState (Except Failure)

/-- Nested instances deeper than this fail. -/
def depthLimit : Nat := 64

namespace EngineM

/-- Fails with a configuration error. -/
def fail {α : Type} (e : ConfigError) : EngineM α := throw (.config e)

/-- The result of a read, or its failure. -/
def ofExcept {α : Type} : Except ConfigError α → EngineM α
  | .ok a => pure a
  | .error e => fail e

/-- Runs a computation, placing a configuration failure under a key. -/
def within {α : Type} (key : String) (act : EngineM α) : EngineM α := fun st =>
  match act st with
  | .error (.config e) => .error (.config (e.within key))
  | r => r

/-- Runs `act`, or `recovery` from the state before it when `act` fails with a configuration error.
-/
def recover {α : Type} (act recovery : EngineM α) : EngineM α := fun st =>
  match act st with
  | .error (.config _) => recovery st
  | r => r

/-- A new instance id. -/
def freshId : EngineM Nat := modifyGet fun st => (st.nextId, { st with nextId := st.nextId + 1 })

/-- A new pending memo cell. -/
def freshMemo : EngineM Nat :=
  modifyGet fun st => (st.memos.size, { st with memos := st.memos.push .pending })

/-- Records a finished instance. -/
def publish (i : Instance) : EngineM Unit := modify fun st => { st with finished := st.finished.push i }

/-- Logs a body evaluation. -/
def logEval (entry : String) : EngineM Unit := modify fun st => { st with evals := st.evals.push entry }

/-- The state of a memo cell. -/
def memo (cell : Nat) : EngineM MemoCell := do pure (((← get).memos[cell]?).getD .pending)

/-- Sets the state of a memo cell. -/
def setMemo (cell : Nat) (m : MemoCell) : EngineM Unit :=
  modify fun st => { st with memos := st.memos.set! cell m }

end EngineM

/-- The finished instance of an id. -/
def EngineState.instance? (st : EngineState) (id : Nat) : Option Instance := st.finished.find? (·.id == id)

/-- What construction knows of the instance being built: the backing node, the lineage of instances
from it outwards (the instance itself first), and its class. -/
structure Context where
  node : Node
  lineage : List (ClassRef × Nat)
  cls : ClassRef

/-- The nearest instance of a class enclosing the one being built. -/
def Context.parentOf (ctx : Context) (c : ClassRef) : Option Nat :=
  ((ctx.lineage.drop 1).find? (·.1.name == c.name)).map (·.2)

/-- Whether `a` comes strictly before `b` in the order of a target: integers by value, texts and
characters by code point, flags with `false` first, variants in declaration order, anything else by
compact text. -/
def Target.before (t : Target) (a b : Typed) : Bool :=
  match t, a, b with
  | _, .int _ x, .int _ y => decide (x < y)
  | _, .str x, .str y => decide (x < y)
  | _, .char x, .char y => decide (x < y)
  | _, .bool x, .bool y => !x && y
  | .enum e, .enum x, .enum y =>
    decide (e.variants.findIdx (·.1 == x) < e.variants.findIdx (·.1 == y))
  | _, x, y => decide (x.text < y.text)

/-- Inserts into a list ordered by `lt`, replacing an element that is neither before nor after the
new one. -/
def insertOrdered {α : Type} (lt : α → α → Bool) (x : α) : List α → List α
  | [] => [x]
  | y :: ys =>
    if lt x y then x :: y :: ys
    else if lt y x then y :: insertOrdered lt x ys
    else x :: ys

/-- Elements ordered by `lt`, of equivalent elements the last one kept. -/
def orderedLast {α : Type} (lt : α → α → Bool) (xs : List α) : List α :=
  xs.foldl (fun acc x => insertOrdered lt x acc) []

/-- Elements in order, of equal elements the first one kept. -/
def distinctFirst {α : Type} (eq : α → α → Bool) (xs : List α) : List α :=
  xs.foldl (fun acc x => if acc.any (eq · x) then acc else acc ++ [x]) []

/-- Entries in order, of entries with equal keys the last one kept at the place of the first. -/
def distinctLastBy {α β : Type} (eq : α → α → Bool) (xs : List (α × β)) : List (α × β) :=
  xs.foldl (fun acc (k, v) =>
    if acc.any (eq ·.1 k) then acc.map fun (k', v') => if eq k' k then (k', v) else (k', v')
    else acc ++ [(k, v)]) []

/-- Documents ordered by their compact text. -/
def sortByText (js : List Json) : List Json := js.mergeSort fun a b => decide (a.compact ≤ b.compact)

/-- Pairs ordered by the compact text of their first document. -/
def sortPairsByText (ps : List (Json × Json)) : List (Json × Json) :=
  ps.mergeSort fun a b => decide (a.1.compact ≤ b.1.compact)

/-- The structural form of a bound value, as equality of set elements sees it: instances without id
and depth, parent references as `null`, and memo cells by their value so far. -/
def EngineState.snapshot (st : EngineState) : Nat → Bound → Json
  | 0, _ => .null
  | fuel + 1, b =>
    match b with
    | .typed t => t.render
    | .absent => .null
    | .present b => st.snapshot fuel b
    | .items bs => .arr (bs.map (st.snapshot fuel))
    | .unordered bs => .arr (sortByText (bs.map (st.snapshot fuel)))
    | .entries kvs => .arr (kvs.map fun (k, v) => .arr [k.render, st.snapshot fuel v])
    | .unorderedEntries kvs =>
      .arr ((sortPairsByText (kvs.map fun (k, v) => (k.render, st.snapshot fuel v))).map
        fun (k, v) => .arr [k, v])
    | .inst id =>
      match st.instance? id with
      | none => .null
      | some i =>
        let slot : Slot → Json
          | .blank => .null
          | .bound b => st.snapshot fuel b
          | .memo c => match st.memos[c]? with
            | some (.ready j) => j
            | _ => .null
        .obj [("members", .arr (i.slots.map fun (n, s) => .arr [.str n, slot s])),
          ("type", .str i.cls.name)]
    | .parent _ _ => .null

end ConfigTree
