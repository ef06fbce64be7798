import ConfigTree.Samples.Classes
import ConfigTree.Binding.Dump

namespace ConfigTree

namespace Samples

open EngineM

/-- The output form of a shape's zero value, for fields that are never read. -/
def Shape.zeroRender : Shape → Json
  | .scalar t => (t.zero?.map Typed.render).getD .null
  | .list _ | .unorderedSet _ | .orderedSet _ | .unorderedMap _ _ | .orderedMap _ _ => .arr []
  | .guarded _ s => Shape.zeroRender s
  | .atomic t => (t.zero?.map Typed.render).getD .null
  | _ => .null

/-- The value of a member of an instance: a field's rendering (its zero value if skipped), or a
getter's value. -/
def member (id : Nat) (name : String) : EngineM Json := do
  match (← get).instance? id with
  | none => pure .null
  | some i =>
    match i.slots.lookup name, catalogue.schema i.cls with
    | some .blank, .fields s =>
      pure (((s.fields.find? (·.name == name)).map (Shape.zeroRender ·.shape)).getD .null)
    | _, _ => memberOf catalogue evaluationFuel i name

/-- The display text of an instance. -/
def display (id : Nat) : EngineM Json := do pure (.str (← displayInstance catalogue evaluationFuel id))

/-- The dump of an instance. -/
def dump (id : Nat) : EngineM Json := do pure (.str (← dumpInstance catalogue evaluationFuel id))

/-- The bound value of a member. -/
def bound? (id : Nat) (name : String) : EngineM (Option Bound) := do
  match ((← get).instance? id).bind (·.slots.lookup name) with
  | some (.bound b) => pure (some b)
  | _ => pure none

/-- The nested instances a member holds: itself, or the items of a list or set. -/
def nested (id : Nat) (name : String) : EngineM (List Nat) := do
  match ← bound? id name with
  | some (.inst n) => pure [n]
  | some (.items bs) | some (.unordered bs) => pure (bs.filterMap fun b =>
      match b with
      | .inst n => some n
      | _ => none)
  | _ => pure []

/-- The nested instances of a map member, by key. -/
def nestedEntries (id : Nat) (name : String) : EngineM (List (Typed × Nat)) := do
  match ← bound? id name with
  | some (.entries kvs) | some (.unorderedEntries kvs) => pure (kvs.filterMap fun (k, b) =>
      match b with
      | .inst n => some (k, n)
      | _ => none)
  | _ => pure []

/-- The instance a parent member refers to. -/
def ancestor? (id : Nat) (name : String) : EngineM (Option Nat) := do
  match ← bound? id name with
  | some (.parent _ a) => pure a
  | _ => pure none

/-- Whether a parent member refers to a given instance. -/
def refersTo (id : Nat) (name : String) (target : Nat) : EngineM Json := do
  pure (.bool ((← ancestor? id name) == some target))

/-- The members of an instance as an object, keys in the order given. -/
def members (id : Nat) (names : List String) : EngineM (List (String × Json)) :=
  names.mapM fun n => do pure (n, ← member id n)

/-- A server of a cluster. -/
def serverReport (enclosing s : Nat) : EngineM Json := do
  pure (.obj ((← members s ["host", "port"]) ++
    [("parent_is_enclosing", ← refersTo s "cluster" enclosing), ("display", ← display s)]))

/-- A zone of a region, keys in text order. -/
def zoneReport (enclosing z : Nat) : EngineM Json := do
  pure (.obj [("host", ← member z "host"), ("parent_is_enclosing", ← refersTo z "region" enclosing),
    ("port", ← member z "port")])

/-- A child, whose root reference is `null` without an enclosing root. -/
def childReport (c : Nat) : EngineM Json := do
  let enclosing ← match ← ancestor? c "root" with
    | none => pure Json.null
    | some a => do
      let st ← get
      pure (.bool (((st.instance? a).map (·.cls.name)) == some root.name))
  pure (.obj ((← members c ["label"]) ++ [("root_is_enclosing", enclosing)] ++
    (← members c ["timeout", "qualified"]) ++ [("display", ← display c)]))

/-- The report on a sample materialized from `input`, by the sample's class. -/
def reportOf (input : Node) (c : ClassRef) (r : Nat) : EngineM Json := do
  match c.name with
  | "Counter" => pure (.obj ((← members r ["count"]) ++ [("display", ← display r)]))
  | "Named" => pure (.obj ((← members r ["name"]) ++ [("display", ← display r)]))
  | "Server" =>
    pure (.obj ((← members r ["host", "port"]) ++
      [("parent_linked", .bool (← ancestor? r "cluster").isSome), ("display", ← display r)]))
  | "Cluster" => do
    let servers ← (← nested r "servers").mapM (serverReport r)
    let raw ← member r "raw"
    pure (.obj ((← members r ["name"]) ++ [("servers", .arr servers)] ++
      (← members r ["balancing", "raw"]) ++
      [("raw_is_input", .bool (raw.compact == (Node.tagged input).compact)), ("debug", ← dump r)]))
  | "Region" => do
    let zones ← (← nestedEntries r "zones").mapM fun (k, z) => do pure (Json.arr [k.render, ← zoneReport r z])
    let standby ← (← nested r "standby").mapM (zoneReport r)
    pure (.obj ((← members r ["name"]) ++ [("zones", .arr zones), ("standby", .arr (sortByText standby))]))
  | "Api" => do
    let burst (name : String) : EngineM Json := do
      match ← nested r name with
      | [l] => member l "burst"
      | _ => pure .null
    pure (.obj ([("limits_burst", ← burst "limits"), ("burst_limits_burst", ← burst "burst_limits")] ++
      (← members r ["tags", "io_threads", "max_retries", "cache"]) ++ [("display", ← display r)]))
  | "Service" => do
    let db ← match ← nested r "database" with
      | [d] => do pure (Json.obj (← members d ["host", "port", "password"]))
      | _ => pure .null
    pure (.obj ((← members r ["name"]) ++ [("database", db)] ++ (← members r ["log_file", "tags"]) ++
      [("display", ← display r)]))
  | "WebServer" =>
    pure (.obj ((← members r ["host", "port", "admin_port", "api_key", "url", "node", "describe"]) ++
      [("display", ← display r), ("debug", ← dump r)]))
  | "Tokens" => do
    let first ← member r "first"
    let second ← member r "second"
    let nonce ← member r "nonce"
    let runs := ((← get).evals.toList.filter (·.endsWith ".nonce")).length
    pure (.obj [("first_is_second", .bool (first.compact == second.compact)),
      ("first_is_nonce", .bool (first.compact == nonce.compact)), ("evaluations", .int runs),
      ("display", ← display r)])
  | "Root" => do
    let child ← match ← nested r "child" with
      | [c] => childReport c
      | _ => pure .null
    pure (.obj ((← members r ["name"]) ++ [("child", child)] ++ (← members r ["default_timeout"]) ++
      [("display", ← display r)]))
  | "Child" => childReport r
  | "Listener" => pure (.obj ((← members r ["transport", "backlog"]) ++ [("display", ← display r)]))
  | "Looping" => pure (.obj (← members r ["a"]))
  | "RelaxedStats" | "Stats" => pure (.obj (← members r ["hits"]))
  | _ => renderInstance catalogue evaluationFuel r

/-- The sample class of a name. -/
def sampleClass? (name : String) : Option ClassRef :=
  (catalogue.classes.find? (·.1.name == name)).map (·.1)

/-- Materializes a sample from a node and reports on it. -/
def report (c : ClassRef) (input : Node) : Except Failure Json :=
  (materializeThen catalogue evaluationFuel c input (reportOf input c)).map (·.1)

end Samples

end ConfigTree
