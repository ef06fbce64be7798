import ConfigTree.Access

namespace ConfigTree

/-- A configuration class: the short name declarations use and its full type path. -/
structure ClassRef where
  name : String
  path : String
deriving Repr, Inhabited, DecidableEq

/-- A lock that guards a value. -/
inductive Lock where
  | mutex
  | rwLock
deriving Repr, Inhabited, DecidableEq

/-- The shape of a declared member's type. -/
inductive Shape where
  | scalar (t : Target)
  | option (s : Shape)
  | list (s : Shape)
  | unorderedSet (s : Shape)
  | orderedSet (s : Shape)
  | unorderedMap (key : Target) (s : Shape)
  | orderedMap (key : Target) (s : Shape)
  | guarded (lock : Lock) (s : Shape)
  | atomic (t : Target)
  | nested (c : ClassRef)
  | parent (c : ClassRef)
deriving Repr, Inhabited

/-- The full path of a scalar target's type. -/
def Target.typePath : Target → String
  | .string => "alloc::string::String"
  | .node => "typed_config::node::Node"
  | .value => valueTypePath
  | .enum e => e.path
  | .list t => "alloc::vec::Vec<" ++ t.typePath ++ ">"
  | t => t.name

namespace Shape

/-- The full path of a shape's type. -/
def typePath : Shape → String
  | .scalar t => t.typePath
  | .option s => "core::option::Option<" ++ s.typePath ++ ">"
  | .list s => "alloc::vec::Vec<" ++ s.typePath ++ ">"
  | .unorderedSet s => "std::collections::hash::set::HashSet<" ++ s.typePath ++ ">"
  | .orderedSet s => "alloc::collections::btree::set::BTreeSet<" ++ s.typePath ++ ">"
  | .unorderedMap k s =>
    "std::collections::hash::map::HashMap<" ++ k.typePath ++ ", " ++ s.typePath ++ ">"
  | .orderedMap k s =>
    "alloc::collections::btree::map::BTreeMap<" ++ k.typePath ++ ", " ++ s.typePath ++ ">"
  | .guarded .mutex s => "std::sync::poison::mutex::Mutex<" ++ s.typePath ++ ">"
  | .guarded .rwLock s => "std::sync::poison::rwlock::RwLock<" ++ s.typePath ++ ">"
  | .atomic t => "core::sync::atomic::Atomic<" ++ t.typePath ++ ">"
  | .nested c => "alloc::sync::Arc<" ++ c.path ++ ">"
  | .parent c => "typed_config::binding::lineage::Parent<" ++ c.path ++ ">"

/-- Whether the outer type allows mutation through a shared reference: locks and atomic cells do, so
a member of such a type is mutable. -/
def allowsMutation : Shape → Bool
  | .guarded _ _ => true
  | .atomic _ => true
  | _ => false

/-- How many levels a shape nests: a wrapper adds one to its inner shape, anything else is one
level. -/
def depth : Shape → Nat
  | .option s | .list s | .unorderedSet s | .orderedSet s | .unorderedMap _ s | .orderedMap _ s
  | .guarded _ s => s.depth + 1
  | _ => 1

/-- The value an atomic cell of a given name holds: `AtomicBool` holds a flag, and `AtomicI32`,
`AtomicUsize` and the like hold the integer kind their suffix names. -/
def atomicTarget? (name : String) : Option Target :=
  if name == "AtomicBool" then some .bool
  else if name.startsWith "Atomic" then
    (IntKind.ofName? (String.ofList ((name.toList.drop 6).map Char.toLower))).map .int
  else none

/-- The shape a type expression names; `enums` are the enumerations and `classes` the configuration
classes in scope. -/
def ofExpr (enums : List EnumDecl) (classes : String → Option ClassRef) : TypeExpr → Option Shape
  | .app "Option" [t] => (ofExpr enums classes t).map .option
  | .app "Vec" [t] => (ofExpr enums classes t).map .list
  | .app "HashSet" [t] => (ofExpr enums classes t).map .unorderedSet
  | .app "BTreeSet" [t] => (ofExpr enums classes t).map .orderedSet
  | .app "HashMap" [k, v] => do
    pure (.unorderedMap (← Target.ofExpr enums k) (← ofExpr enums classes v))
  | .app "BTreeMap" [k, v] => do
    pure (.orderedMap (← Target.ofExpr enums k) (← ofExpr enums classes v))
  | .app "Mutex" [t] => (ofExpr enums classes t).map (.guarded .mutex)
  | .app "RwLock" [t] => (ofExpr enums classes t).map (.guarded .rwLock)
  | .app "Arc" [.app c []] => (classes c).map .nested
  | .app "Parent" [.app c []] => (classes c).map .parent
  | .app name [] =>
    match atomicTarget? name with
    | some t => some (.atomic t)
    | none => (Target.ofExpr enums (.app name [])).map .scalar
  | _ => none

/-- The shape a type text names. -/
def parse? (enums : List EnumDecl) (classes : String → Option ClassRef) (s : String) :
    Option Shape :=
  (TypeExpr.parse? s).bind (ofExpr enums classes)

end Shape

end ConfigTree
