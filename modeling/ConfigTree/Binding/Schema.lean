import ConfigTree.Binding.Shape
import ConfigTree.Binding.Member
import ConfigTree.Binding.Body

namespace ConfigTree

/-- How a field is declared. -/
inductive FieldAttr where
  | plain
  | required
  | withDefault
  | defaultWith
  | withFallback
  | identity
  | parent
  | computed
  | skip
deriving Repr, Inhabited, DecidableEq

/-- How a constructor consumes the next field. -/
inductive PopOp where
  | require
  | withZero
  | withDefault
  | withDefaultValue
  | withFallback
deriving Repr, Inhabited, DecidableEq

/-- What a pop does when the key is absent: fail, take the zero value, take a value bound before the
pop (`preset`), bind a default value, or materialize from a fallback node. -/
inductive PopRule where
  | require
  | zero
  | preset (default : Value)
  | convert (default : Value)
  | fallback (node : Node)
deriving Inhabited

/-- One step of a field-style constructor: a field rendered as `null` without consuming anything, a
pop whose value is rendered under a name (none for pops beyond the fields), or a pop whose result
the constructor drops, a failure included. -/
inductive FieldStep where
  | blank (name : String)
  | pop (name : Option String) (shape : Shape) (rule : PopRule)
  | discard (shape : Shape) (rule : PopRule)
deriving Inhabited

/-- Whether and how a field is consumed: by its attribute, not at all, or by a given op. -/
inductive PopChoice where
  | byAttr
  | none
  | forced (op : PopOp)
deriving Repr, Inhabited

namespace FieldAttr

/-- The markers an attribute sets. -/
def markers : FieldAttr → List Marker
  | .identity => [.identity]
  | .parent => [.parent]
  | .computed => [.computed]
  | .skip => [.ignore]
  | _ => []

/-- The contract an attribute sets. -/
def contract : FieldAttr → Contract
  | .required => .required
  | .withDefault | .defaultWith => .withDefault
  | .withFallback => .withFallback
  | _ => .zero

/-- The op that consumes a field of this attribute; a skipped field is not consumed. -/
def popOp? : FieldAttr → Option PopOp
  | .required => some .require
  | .withDefault => some .withDefaultValue
  | .defaultWith => some .withDefault
  | .withFallback => some .withFallback
  | .skip => none
  | _ => some .withZero

end FieldAttr

/-- The absence rule of an op, given the declared default value and fallback node; an op that needs
a default value that was not given takes the zero value. -/
def PopOp.rule (default : Option Value) (fallback : Node) : PopOp → PopRule
  | .require => .require
  | .withZero => .zero
  | .withDefault => (default.map .preset).getD .zero
  | .withDefaultValue => (default.map .convert).getD .zero
  | .withFallback => .fallback fallback

/-- A field declaration. -/
structure FieldDecl where
  name : String
  shape : Shape
  attr : FieldAttr := .plain
  default : Option Value := none
  fallback : Node := []
  rename : Option String := none
  markers : Option (List Marker) := none
  contract : Option Contract := none
  mutable : Option Bool := none
  declaredType : Option String := none
  declare : Bool := true
  pop : PopChoice := .byAttr
  popShape : Option Shape := none
deriving Inhabited

namespace FieldDecl

/-- The member a field declares. -/
def member (f : FieldDecl) : Member where
  name := f.name
  rename := f.rename
  declaredType := f.declaredType.getD f.shape.typePath
  markers := f.markers.getD f.attr.markers
  shape := .field (f.mutable.getD f.shape.allowsMutation) (f.contract.getD f.attr.contract)

/-- The constructor step of a field. -/
def step (f : FieldDecl) : Option FieldStep :=
  let pop (op : PopOp) : FieldStep :=
    .pop (some f.name) (f.popShape.getD f.shape) (op.rule f.default f.fallback)
  match f.pop with
  | .none => none
  | .forced op => some (pop op)
  | .byAttr =>
    match f.attr.popOp? with
    | some op => some (pop op)
    | none => some (.blank f.name)

end FieldDecl

/-- A pop a constructor makes after its fields, and whether the constructor drops its failure. -/
structure ExtraPop where
  op : PopOp
  shape : Shape
  default : Option Value := none
  fallback : Node := []
  ignoresFailure : Bool := false
deriving Inhabited

/-- The constructor step of an extra pop; its value is not kept. -/
def ExtraPop.step (p : ExtraPop) : FieldStep :=
  if p.ignoresFailure then .discard p.shape (p.op.rule p.default p.fallback)
  else .pop none p.shape (p.op.rule p.default p.fallback)

/-- A field-style class: settings, fields and extra pops. -/
structure FieldSchema where
  naming : String → String := id
  allowMutable : Bool := false
  fields : List FieldDecl := []
  extraPops : List ExtraPop := []
deriving Inhabited

namespace FieldSchema

/-- The class-wide settings. -/
def settings (s : FieldSchema) : ClassSettings := ⟨s.naming, s.allowMutable⟩

/-- The declared members, in order. -/
def members (s : FieldSchema) : List Member := (s.fields.filter (·.declare)).map FieldDecl.member

/-- The constructor's steps, in order. -/
def steps (s : FieldSchema) : List FieldStep := s.fields.filterMap FieldDecl.step ++ s.extraPops.map ExtraPop.step

end FieldSchema

/-- The kind of a getter. -/
inductive GetterKind where
  | property
  | defaulted
  | computed
  | identity
  | parent
  | ignored
  | method
deriving Repr, Inhabited, DecidableEq

/-- How a getter's constructor binds it. -/
inductive GetterBinding where
  | property
  | defaulted
  | computed
  | identity
  | parent
deriving Repr, Inhabited, DecidableEq

namespace GetterKind

/-- The markers of a kind. -/
def markers : GetterKind → List Marker
  | .computed => [.computed]
  | .identity => [.identity]
  | .parent => [.parent]
  | .ignored => [.ignore]
  | _ => []

/-- Whether a getter of this kind has a default body. -/
def hasBody : GetterKind → Bool
  | .defaulted | .computed | .ignored | .method => true
  | _ => false

/-- Whether a getter of this kind takes arguments. -/
def takesArguments : GetterKind → Bool
  | .method => true
  | _ => false

/-- The binding of a kind; ignored getters and methods are not bound. -/
def binding : GetterKind → Option GetterBinding
  | .property => some .property
  | .defaulted => some .defaulted
  | .computed => some .computed
  | .identity => some .identity
  | .parent => some .parent
  | .ignored | .method => none

end GetterKind

/-- A getter declaration; `target` is the class a parent getter refers to. -/
structure GetterDecl where
  name : String
  shape : Option Shape := none
  kind : GetterKind := .property
  body : Body := .literal .null
  target : ClassRef
  rename : Option String := none
  bindAs : Option (Option GetterBinding) := none
  declare : Bool := true
  markers : Option (List Marker) := none
  hasBody : Option Bool := none
  takesArguments : Option Bool := none
  declaredType : Option String := none
deriving Inhabited

namespace GetterDecl

/-- The declared type: as given, else a parent getter holds an optional nested target and any other
getter a text. -/
def valueShape (g : GetterDecl) : Shape :=
  g.shape.getD (if g.kind == .parent then .option (.nested g.target) else .scalar .string)

/-- The member a getter declares. -/
def member (g : GetterDecl) : Member where
  name := g.name
  rename := g.rename
  declaredType := g.declaredType.getD g.valueShape.typePath
  markers := g.markers.getD g.kind.markers
  shape := .getter (g.hasBody.getD g.kind.hasBody) (g.takesArguments.getD g.kind.takesArguments)

/-- How the constructor binds the getter, if at all. -/
def binding (g : GetterDecl) : Option GetterBinding := g.bindAs.getD g.kind.binding

end GetterDecl

/-- A getter-style class: the keys of its naming convention, and its getters. -/
structure GetterSchema where
  naming : String → String := id
  getters : List GetterDecl := []
deriving Inhabited

namespace GetterSchema

/-- The class-wide settings; getters are never mutable. -/
def settings (s : GetterSchema) : ClassSettings := ⟨s.naming, false⟩

/-- The declared members, in order. -/
def members (s : GetterSchema) : List Member := (s.getters.filter (·.declare)).map GetterDecl.member

/-- The first getter of a name. -/
def find? (s : GetterSchema) (name : String) : Option GetterDecl := s.getters.find? (·.name == name)

end GetterSchema

/-- The declarations of a class, in either style. -/
inductive Schema where
  | fields (s : FieldSchema)
  | getters (s : GetterSchema)
deriving Inhabited

/-- The classes in scope, each with its declarations. -/
structure Catalogue where
  classes : List (ClassRef × Schema)
deriving Inhabited

/-- The declarations of a class; a class without any is an empty field-style class. -/
def Catalogue.schema (cat : Catalogue) (c : ClassRef) : Schema :=
  ((cat.classes.find? (·.1.name == c.name)).map (·.2)).getD (.fields {})

/-- The shapes a class's constructor binds: those of its pops, or of its getters. -/
def Schema.shapes : Schema → List Shape
  | .fields s => s.steps.filterMap fun
    | .pop _ shape _ => some shape
    | .discard shape _ => some shape
    | .blank _ => none
  | .getters s => s.getters.map (·.valueShape)

/-- The depth of the deepest shape a class binds. -/
def Schema.shapeDepth (s : Schema) : Nat := s.shapes.foldr (fun shape d => max shape.depth d) 0

/-- The depth of the deepest shape any class in scope binds. -/
def Catalogue.shapeDepth (cat : Catalogue) : Nat := cat.classes.foldr (fun c d => max c.2.shapeDepth d) 0

end ConfigTree
